import Vdom.Proofs.Json.Scanning
import Vdom.Text.Quoted
/-!
# Literals read back — where a quoted text ends, and what it says

An escaped character is one of the ways the grammar has of writing it (`spells_escape`), so a
quoted text is a literal that says the text.

`readText_quoted`: a strict reader of JSON literals, started behind the opening quote of a quoted
text, yields the text and leaves exactly what follows the literal, whatever follows.
-/

namespace Vdom.Json

open Text.Quoted (escape encode)

/-- The two digits after `\u00` spell the number of a control character. -/
theorem hexWord?_control : ∀ n < 0x20,
    hexWord? '0' '0' (Nat.digitChar (n / 16)) (Nat.digitChar (n % 16)) = some n := by
  decide

/-- An escaped character says itself. -/
theorem spells_escape (c : Char) {ps : Points} {cs : List Char} (spelled : Spells ps cs) :
    Spells (c.toNat :: ps) (escape c ++ cs) := by
  rw [escape]
  -- One case for each character that has a short escape, then control characters, then all others.
  split
  · rename_i h; subst h; exact .short (by decide) spelled
  split
  · rename_i h; subst h; exact .short (by decide) spelled
  split
  · rename_i h; subst h; exact .short (by decide) spelled
  split
  · rename_i h; subst h; exact .short (by decide) spelled
  split
  · rename_i h; subst h; exact .short (by decide) spelled
  split
  · rename_i h; subst h; exact .short (by decide) spelled
  split
  · rename_i h; subst h; exact .short (by decide) spelled
  split
  · rename_i control
    obtain ⟨high, low⟩ := toNat_no_half c
    exact .unit (hexWord?_control c.toNat control) high low spelled
  · rename_i backslash quote _ _ _ _ _ printable
    exact .plain quote backslash (Nat.le_of_not_lt printable) spelled

/-- An escaped text spells its characters, one by one. -/
theorem spells_escaped (cs : List Char) : Spells (cs.map Char.toNat) (cs.flatMap escape) := by
  induction cs with
  | nil => exact .done
  | cons c cs ih => exact spells_escape c ih

/-- **A LITERAL ENDS ITSELF**: behind its opening quote, a quoted text is read to its end and no
    further. -/
theorem readText_quoted (cs rest : List Char) :
    readText (cs.flatMap escape ++ '"' :: rest) = .ok (cs, rest) :=
  readText_spelled (spells_escaped cs) rest cs rfl

end Vdom.Json
