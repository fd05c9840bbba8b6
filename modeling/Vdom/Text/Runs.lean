/-!
# Runs of characters — a property given by its ranges

A property of characters is a list of runs, ascending and apart. A character has the property if
its code point lies within the bounds of one run.
-/

namespace Vdom.Text

/-- The first and the last code point of a run. -/
abbrev Run := Nat × Nat

/-- Whether a character stands in one of the runs. -/
def inRuns (runs : List Run) (c : Char) : Bool :=
  runs.any fun run => run.1 ≤ c.toNat && c.toNat ≤ run.2

end Vdom.Text
