import Vdom.Component
/-!
# Keys — the identity of a node among its siblings

A key equals a key of its own kind only, except that whole numbers are compared with binary64
numbers after rounding to one. Not-a-number equals no key, and keys made of lists or objects are
equal only to themselves.
-/

namespace Vdom

/-- A key. -/
inductive Key where
  | text (s : String)
  | int (i : Int64)
  | number (x : Binary64)
  | bool (b : Bool)
  /-- A list or an object. -/
  | object (o : Shared Value)

namespace Key

/-- The key that a value stands for; `null` stands for none. A list or an object becomes a key
    with the identity `id`, a whole number beyond the signed 64-bit range a binary64 number. -/
def ofValue (id : Nat) : Value → Option Key
  | .null => none
  | .bool b => some (.bool b)
  | .int i =>
    if Int64.minValue.toInt ≤ i ∧ i ≤ Int64.maxValue.toInt then some (.int (Int64.ofInt i))
    else some (.number (.ofInt i))
  | .float x => some (.number x.val)
  | .text s => some (.text s)
  | .list xs => some (.object ⟨id, .list xs⟩)
  | .object fields => some (.object ⟨id, .object fields⟩)

/-- Whether two keys are equal. -/
def same : Key → Key → Bool
  | .text a, .text b => a == b
  | .int a, .int b => a == b
  | .number a, .number b => a.same b
  | .int a, .number b => (Binary64.ofInt a.toInt).same b
  | .number a, .int b => (Binary64.ofInt b.toInt).same a
  | .bool a, .bool b => a == b
  | .object a, .object b => a.is b
  | _, _ => false

end Key

end Vdom
