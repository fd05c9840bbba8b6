import Vdom.Node.Key
import Vdom.Shape
/-!
# Nodes — one tree of the virtual document

A node is fixed when it is made, except for its bindings to the host, which a renderer writes
later; they are kept in a cell of a store, and the node has the number of its cell. Two nodes are
the same node exactly if they have the same cell.
-/

namespace Vdom

/-- What a node stands for. -/
inductive Kind where
  /-- A host element, by its tag. -/
  | element (tag : String)
  /-- A host text. -/
  | text
  /-- Children without a wrapper element. -/
  | fragment
  | component (c : Shared Component)

namespace Kind

/-- Whether two nodes stand for the same; tags compare by value, components by identity. -/
def same : Kind → Kind → Bool
  | .element a, .element b => a == b
  | .text, .text => true
  | .fragment, .fragment => true
  | .component a, .component b => a.is b
  | _, _ => false

/-- The shape bit of what a node stands for; texts and fragments have none. -/
def shape : Kind → Shape
  | .element _ => .element
  | .component _ => .component
  | .text => .empty
  | .fragment => .empty

end Kind

/-- What a node is, apart from its cell and its children. -/
structure Head where
  kind : Kind
  props : Option (Shared Fields)
  key : Option Key
  /-- The name under which the host node is handed out. -/
  ref : Option Value
  shape : Shape
  directives : Option (Shared (List Directive))
  /-- The instance that was rendering when the node was made. -/
  context : Option Instance
  /-- On the root of an application only. -/
  app : Option (Shared AppContext)

mutual

/-- A node. -/
inductive Node where
  | mk (cell : Nat) (head : Head) (children : Children)

/-- The children of a node. -/
inductive Children where
  | none
  | text (s : String)
  | array (entries : List Child)
  | slots (s : Slots)

/-- An entry of an array of children. -/
inductive Child where
  | node (n : Node)
  /-- A text that is no node yet. -/
  | text (s : String)
  /-- An array inside an array, which becomes a fragment. -/
  | array (entries : List Child)

end

namespace Node

/-- The cell of the bindings of a node. -/
def cell : Node → Nat
  | .mk cell _ _ => cell

/-- What a node is. -/
def head : Node → Head
  | .mk _ head _ => head

/-- The children of a node. -/
def children : Node → Children
  | .mk _ _ children => children

/-- Whether two nodes are one. -/
def is (a b : Node) : Bool := a.cell == b.cell

/-- Whether one node may be updated in place of another: same kind and same key. -/
def patchable (a b : Node) : Bool :=
  a.head.kind.same b.head.kind && sameOption Key.same a.head.key b.head.key

end Node

namespace Children

/-- Whether there are no children. -/
def isNone : Children → Bool
  | .none => true
  | _ => false

/-- The text, if the children are one. -/
def text? : Children → Option String
  | .text s => some s
  | _ => Option.none

/-- The entries, if the children are an array. -/
def array? : Children → Option (List Child)
  | .array entries => some entries
  | _ => Option.none

/-- The slot with a name, if the children are slots and one has it. -/
def slot? (name : String) : Children → Option Slot
  | .slots s => s.lookup name
  | _ => Option.none

end Children

/-- Whether an entry is a node. -/
def Child.isNode : Child → Bool
  | .node _ => true
  | _ => false

end Vdom
