import Vdom.Template
/-!
# Categories — the kinds of template nodes by name and number

Names and numbers are part of the exchange format of templates; the numbers have gaps.
-/

namespace Vdom

/-- The kind of a template node. -/
inductive Category where
  | root
  | element
  | text
  | atom
  | interpolation
  | compound
  | call
  | object
  | property
  | array
  deriving DecidableEq, Repr

namespace Category

/-- The kinds in the order of their numbers. -/
def all : List Category :=
  [root, element, text, atom, interpolation, compound, call, object, property, array]

/-- The name of a kind. -/
def name : Category → String
  | root => "Root"
  | element => "Element"
  | text => "Text"
  | atom => "SimpleExpression"
  | interpolation => "Interpolation"
  | compound => "CompoundExpression"
  | call => "VNodeCall"
  | object => "JsObjectExpression"
  | property => "JsProperty"
  | array => "JsArrayExpression"

/-- The number of a kind. -/
def number : Category → Nat
  | root => 0
  | element => 1
  | text => 2
  | atom => 4
  | interpolation => 5
  | compound => 8
  | call => 13
  | object => 15
  | property => 16
  | array => 17

/-- The kind with a name. -/
def named? (s : String) : Option Category :=
  all.find? fun k => k.name = s

end Category

/-- The kind of a node that stands in a template. -/
def Template.category : Template → Category
  | .element .. => .element
  | .text .. => .text
  | .interpolation .. => .interpolation
  | .compound .. => .compound

/-- The kind of a value in the code. -/
def Operand.category : Operand → Category
  | .call _ => .call
  | .object .. => .object
  | .array .. => .array
  | .atom _ => .atom
  | .compound .. => .compound

end Vdom
