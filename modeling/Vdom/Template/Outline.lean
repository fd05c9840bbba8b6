import Vdom.Template.Category
/-!
# Outlines — a template listed in pre-order

A child place is listed with the kind and span of what fills it, and what fills it is listed
again on its own account: once as a place, once as a node. Texts and atoms in a compound fill no
place of their own, and neither does an atom as an expression.
-/

namespace Vdom.Template

/-- A line of an outline. -/
inductive Entry where
  | node (category : Category) (span : Span)
  /-- Pasted code. -/
  | raw (code : String)
  /-- The name of a helper. -/
  | symbol (helper : Helper)
  /-- An element without a plan. -/
  | missing

end Vdom.Template

namespace Vdom

open Template (Entry)

/-- The line of an atom. -/
def Atom.outline (a : Atom) : List Entry := [.node .atom a.span]

mutual

/-- The lines of an expression. -/
def Expr.outline : Expr → List Entry
  | .atom a => a.outline
  | .compound parts span => .node .compound span :: .node .compound span :: outlineParts parts

/-- The lines of a part. -/
def Part.outline : Part → List Entry
  | .atom a => a.outline
  | .compound parts span => .node .compound span :: outlineParts parts
  | .interpolation content span => .node .interpolation span :: content.outline
  | .text _ span => [.node .text span]
  | .raw code => [.raw code]
  | .symbol helper => [.symbol helper]

/-- The lines of the parts of a compound. -/
def outlineParts : List Part → List Entry
  | [] => []
  | part :: rest => part.outline ++ outlineParts rest

end

mutual

/-- The lines of a node in a child place. -/
def Template.outline : Template → List Entry
  | .element _ parsed plan span =>
    .node .element span :: .node .element span :: (outlineAll parsed ++ plan.outline)
  | .text _ span => [.node .text span, .node .text span]
  | .interpolation content span =>
    .node .interpolation span :: .node .interpolation span :: content.outline
  | .compound parts span => .node .compound span :: .node .compound span :: outlineParts parts

/-- The lines of the nodes in child places. -/
def outlineAll : List Template → List Entry
  | [] => []
  | child :: rest => child.outline ++ outlineAll rest

/-- The lines of what stands for an element. -/
def Plan.outline : Plan → List Entry
  | .missing => [.missing]
  | .call c => c.outline
  | .atom a => a.outline

/-- The lines of a call. -/
def Call.outline : Call → List Entry
  | .mk _ props content span => .node .call span :: (outlineProps props ++ content.outline)

/-- The lines of the props of a call. -/
def outlineProps : Option Operand → List Entry
  | none => []
  | some value => value.outline

/-- The lines of the children of a call. -/
def Content.outline : Content → List Entry
  | .absent => []
  | .many children => outlineAll children
  | .one child => child.outline
  | .operand value => value.outline

/-- The lines of a value in the place where it stands. -/
def Operand.outline : Operand → List Entry
  | .call c => .node .call c.span :: c.outline
  | .object properties span =>
    .node .object span :: .node .object span :: outlineProperties properties
  | .array items span => .node .array span :: .node .array span :: outlineItems items
  | .atom a => a.outline ++ a.outline
  | .compound parts span => .node .compound span :: .node .compound span :: outlineParts parts

/-- The lines of the properties of an object. -/
def outlineProperties : List Property → List Entry
  | [] => []
  | property :: rest => property.outline ++ outlineProperties rest

/-- The lines of a property, then of its key and its value. -/
def Property.outline : Property → List Entry
  | .mk key value span => .node .property span :: (key.outline ++ value.outline)

/-- The lines of the items of an array. -/
def outlineItems : List Item → List Entry
  | [] => []
  | item :: rest => item.outline ++ outlineItems rest

/-- The lines of an item. -/
def Item.outline : Item → List Entry
  | .raw code => [.raw code]
  | .operand value => value.outline

end

/-- The lines of a whole template. -/
def Root.outline (r : Root) : List Entry :=
  .node .root r.span :: outlineAll r.children

end Vdom
