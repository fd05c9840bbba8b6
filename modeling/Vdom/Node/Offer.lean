import Vdom.Binary64.Text
import Vdom.Node
/-!
# Offers — children as they are handed in

Children come in many forms and are stored in few: numbers and truth values become text, and a
single render function becomes the default slot. `Node.receive` stores children and adds the bit
of their form to the shape of the node; bits that are there stay.
-/

namespace Vdom

/-- Children as they are handed in; `κ` is what the entries of an array are. -/
inductive Offer (κ : Type) where
  | none
  | text (s : String)
  | number (x : Binary64)
  | bool (b : Bool)
  | array (entries : List κ)
  | slots (s : Slots)
  /-- A render function without a name. -/
  | render (slot : Slot)

/-- The children that an offer is stored as, and their shape bit on a node of shape `shape`. A
    mapping of slots on an element has no bit, since elements take no slots. -/
def Offer.settle (shape : Shape) : Offer Child → Children × Shape
  | .none => (.none, .empty)
  | .text s => (.text s, .textChildren)
  | .number x => (.text x.text, .textChildren)
  | .bool b => (.text (if b then "true" else "false"), .textChildren)
  | .array entries => (.array entries, .arrayChildren)
  | .slots s => (.slots s, if shape.contains .element then .empty else .slotsChildren)
  | .render slot => (.slots (.single Slot.defaultName slot), .slotsChildren)

/-- The node with the children of an offer in place of its own, their bit added to its shape. -/
def Node.receive (n : Node) (offer : Offer Child) : Node :=
  match n with
  | .mk cell head _ =>
    let (children, bit) := offer.settle head.shape
    .mk cell { head with shape := head.shape.union bit } children

/-- The shape bit of stored children, which slots do not have. -/
def Children.shape : Children → Shape
  | .text _ => .textChildren
  | .array _ => .arrayChildren
  | .none => .empty
  | .slots _ => .empty

/-- The node with the bit of its children added to its shape. -/
def Node.markChildren : Node → Node
  | .mk cell head children =>
    .mk cell { head with shape := head.shape.union children.shape } children

end Vdom
