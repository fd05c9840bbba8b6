/-!
# Dictionaries — values under distinct names, in one order

The names are kept apart from the values and in ascending order, so that a dictionary can be
written in one way only: two dictionaries have the same names exactly if their lists of names are
equal. A dictionary of trees may stand inside a tree.
-/

namespace Vdom

/-- Distinct names, ascending. -/
@[ext]
structure Names where
  toList : List String
  ascending : toList.Pairwise (· < ·)
  deriving DecidableEq

/-- A value under each of some names. -/
structure Dictionary (α : Type) where
  names : Names
  value : ∀ name ∈ names.toList, α

namespace Dictionary

variable {α : Type}

/-- One value under one name. -/
def single (name : String) (a : α) : Dictionary α :=
  ⟨⟨[name], List.pairwise_singleton _ name⟩, fun _ _ => a⟩

/-- The value under a name, if there is one. -/
def lookup (d : Dictionary α) (name : String) : Option α :=
  if there : name ∈ d.names.toList then some (d.value name there) else none

/-- Whether two dictionaries have the same names, and the same values under them. -/
def same (same : α → α → Bool) (d e : Dictionary α) : Bool :=
  if h : d.names = e.names then
    d.names.toList.attach.all fun n =>
      same (d.value n.val n.property) (e.value n.val (h ▸ n.property))
  else false

end Dictionary

end Vdom
