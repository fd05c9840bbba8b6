/-!
# Argument lists with gaps — trailing absences are dropped

An absent argument keeps its place while a present one follows it, and vanishes otherwise.
-/

namespace Vdom.Emit

/-- The present arguments with `filler` in the gaps between them and nothing after the last. -/
def fillGaps {α : Type} (filler : α) : List (Option α) → List α
  | [] => []
  | some a :: rest => a :: fillGaps filler rest
  | none :: rest =>
    match fillGaps filler rest with
    | [] => []
    | filled => filler :: filled

/-- A list without gaps is left as it is. -/
theorem fillGaps_map_some {α : Type} (filler : α) (xs : List α) :
    fillGaps filler (xs.map some) = xs := by
  induction xs with
  | nil => rfl
  | cons x xs ih => rw [List.map_cons, fillGaps, ih]

end Vdom.Emit
