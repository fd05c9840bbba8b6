import Vdom.Binary64
import Vdom.Dictionary
/-!
# Values — the data that props, directives and contexts carry

Whole numbers and binary64 numbers are different values even where they are equal as numbers;
binary64 numbers are finite and compare numerically. The fields of an object are a dictionary.
-/

namespace Vdom

/-- A finite binary64 number. -/
abbrev FiniteNumber := { x : Binary64 // x.isFinite = true }

/-- A value. -/
inductive Value where
  | null
  | bool (b : Bool)
  | int (i : Int)
  | float (x : FiniteNumber)
  | text (s : String)
  | list (xs : List Value)
  | object (fields : Dictionary Value)

instance : Inhabited Value := ⟨.null⟩

/-- Values under names. -/
abbrev Fields := Dictionary Value

mutual

/-- Whether two values are equal. -/
def Value.same : Value → Value → Bool
  | .null, .null => true
  | .bool a, .bool b => a == b
  | .int a, .int b => a == b
  | .float a, .float b => a.val.same b.val
  | .text a, .text b => a == b
  | .list xs, .list ys => sameValues xs ys
  | .object xs, .object ys => sameFields xs ys
  | _, _ => false
termination_by structural a => a

/-- Whether two lists hold equal values. -/
def sameValues : List Value → List Value → Bool
  | [], [] => true
  | x :: xs, y :: ys => x.same y && sameValues xs ys
  | _, _ => false
termination_by structural a => a

/-- Whether two objects have equal fields. -/
def sameFields : Dictionary Value → Dictionary Value → Bool
  | ⟨ms, x⟩, ⟨ns, y⟩ =>
    if h : ms = ns then
      ms.toList.attach.all fun n => (x n.val n.property).same (y n.val (h ▸ n.property))
    else false
termination_by structural a => a

end

/-- Whether two values that may be absent are equal. -/
def sameOption {α : Type} (same : α → α → Bool) : Option α → Option α → Bool
  | none, none => true
  | some a, some b => same a b
  | _, _ => false

end Vdom
