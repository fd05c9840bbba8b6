import Vdom.Text.Parts
import Vdom.Text.Quoted
/-!
# Neutral texts — what leaves no string and no bracket open

A text is scanned from left to right, with a mode that tells string literals from the rest and a
stack of the brackets that are open outside strings.

* **`Scan.run`** — the scan; it fails on a bracket that closes anything but the innermost open one.
* **`Neutral`** — a scan that starts outside strings with no open bracket ends the same way.
* **`Scan.run_within`** — brackets that are open before a text do not matter to its scan, so a
  neutral text is neutral at any depth and between any brackets.
* **`neutral_quote`** — every string literal is neutral, whatever its text.
-/

namespace Vdom.Text

/-- Where a scan stands. -/
inductive Mode where
  | outside
  /-- In a string literal. -/
  | inside
  /-- In a string literal, right after a backslash. -/
  | escaped
  deriving DecidableEq, Repr

/-- The mode of a scan and the brackets open outside strings, the innermost first. -/
structure Scan where
  mode : Mode
  stack : List Char
  deriving DecidableEq, Repr

/-- Whether a character opens a bracket. -/
def isOpener (c : Char) : Bool := c = '(' || c = '[' || c = '\x7b'

/-- The bracket that a character closes, if it closes one. -/
def opener? (c : Char) : Option Char :=
  if c = ')' then some '('
  else if c = ']' then some '['
  else if c = '\x7d' then some '\x7b'
  else none

namespace Scan

/-- Take a bracket off the stack if it is the innermost one. -/
def close (opener : Char) : List Char → Option (List Char)
  | [] => none
  | top :: rest => if top = opener then some rest else none

/-- The scan after one more character. -/
def step (s : Scan) (c : Char) : Option Scan :=
  match s.mode with
  | .escaped => some ⟨.inside, s.stack⟩
  | .inside =>
    if c = '\\' then some ⟨.escaped, s.stack⟩
    else if c = '"' then some ⟨.outside, s.stack⟩
    else some s
  | .outside =>
    if c = '"' then some ⟨.inside, s.stack⟩
    else if isOpener c then some ⟨.outside, c :: s.stack⟩
    else
      match opener? c with
      | some opener => (close opener s.stack).map fun rest => ⟨.outside, rest⟩
      | none => some s

/-- The scan after a text. -/
def run (s : Scan) : List Char → Option Scan
  | [] => some s
  | c :: cs => (s.step c).bind fun next => run next cs

/-- A text may be scanned in two parts. -/
theorem run_append (s : Scan) (xs ys : List Char) :
    s.run (xs ++ ys) = (s.run xs).bind fun next => next.run ys := by
  induction xs generalizing s with
  | nil => rfl
  | cons c xs ih =>
      rw [List.cons_append, run, run]
      cases s.step c with
      | none => rfl
      | some next => exact ih next

/-- The scan with more brackets open around it. -/
def within (s : Scan) (base : List Char) : Scan := ⟨s.mode, s.stack ++ base⟩

/-- One step of a scan does not look below the brackets that the scan has opened. -/
theorem step_within {s t : Scan} {c : Char} (h : s.step c = some t) (base : List Char) :
    (s.within base).step c = some (t.within base) := by
  obtain ⟨mode, stack⟩ := s
  cases mode with
  | escaped =>
      rw [← Option.some.inj h]
      rfl
  | inside =>
      simp only [step, within] at h ⊢
      split at h
      · rw [if_pos ‹_›, ← Option.some.inj h]
      · rw [if_neg ‹_›]
        split at h
        · rw [if_pos ‹_›, ← Option.some.inj h]
        · rw [if_neg ‹_›, ← Option.some.inj h]
  | outside =>
      simp only [step, within] at h ⊢
      split at h
      · rw [if_pos ‹_›, ← Option.some.inj h]
      · rw [if_neg ‹_›]
        split at h
        · rw [if_pos ‹_›, ← Option.some.inj h]
          rfl
        · rw [if_neg ‹_›]
          cases hc : opener? c with
          | none =>
              rw [hc] at h
              rw [← Option.some.inj h]
          | some opener =>
              rw [hc] at h
              -- Only what the scan itself has opened may be closed, never a bracket of the base.
              cases stack with
              | nil => exact nomatch h
              | cons top rest =>
                  by_cases innermost : top = opener
                  · simp only [close, if_pos innermost] at h
                    simp only [close, List.cons_append, if_pos innermost]
                    rw [← Option.some.inj h]
                    rfl
                  · simp only [close, if_neg innermost] at h
                    exact nomatch h

/-- **FRAME**: brackets that are open around a scan stay open and do not disturb it. -/
theorem run_within {s t : Scan} {cs : List Char} (h : s.run cs = some t) (base : List Char) :
    (s.within base).run cs = some (t.within base) := by
  induction cs generalizing s with
  | nil =>
      rw [← Option.some.inj h]
      rfl
  | cons c cs ih =>
      rw [run] at h ⊢
      cases hstep : s.step c with
      | none => rw [hstep] at h; exact nomatch h
      | some next =>
          rw [hstep] at h
          rw [step_within hstep base]
          exact ih h

end Scan

/-! ## Neutral texts -/

/-- A scan of the text that starts outside strings with no open bracket ends the same way. -/
def Neutral (text : String) : Prop :=
  Scan.run ⟨.outside, []⟩ text.toList = some ⟨.outside, []⟩

instance (text : String) : Decidable (Neutral text) :=
  inferInstanceAs (Decidable (Scan.run ⟨.outside, []⟩ text.toList = some ⟨.outside, []⟩))

/-- A neutral text is neutral at any depth. -/
theorem Neutral.within {text : String} (h : Neutral text) (base : List Char) :
    Scan.run ⟨.outside, base⟩ text.toList = some ⟨.outside, base⟩ :=
  Scan.run_within h base

theorem neutral_empty : Neutral "" := rfl

/-- Two neutral texts in a row are neutral. -/
theorem Neutral.append {s t : String} (hs : Neutral s) (ht : Neutral t) : Neutral (s ++ t) := by
  rw [Neutral, String.toList_append, Scan.run_append, hs]
  exact ht

/-- A text that opens a bracket and leaves it open. -/
def Opens (text : String) (opener : Char) : Prop :=
  Scan.run ⟨.outside, []⟩ text.toList = some ⟨.outside, [opener]⟩

/-- A text that closes a bracket. -/
def Closes (text : String) (opener : Char) : Prop :=
  Scan.run ⟨.outside, [opener]⟩ text.toList = some ⟨.outside, []⟩

instance (text : String) (opener : Char) : Decidable (Opens text opener) :=
  inferInstanceAs (Decidable (Scan.run _ _ = _))

instance (text : String) (opener : Char) : Decidable (Closes text opener) :=
  inferInstanceAs (Decidable (Scan.run _ _ = _))

/-- What stands between an opening and the closing that belongs to it is closed off. -/
theorem Neutral.enclosed {before inner after : String} {opener : Char}
    (opens : Opens before opener) (h : Neutral inner) (closes : Closes after opener) :
    Neutral (before ++ (inner ++ after)) := by
  rw [Neutral, String.toList_append, String.toList_append, Scan.run_append, opens]
  -- The inner text is scanned one level deeper than it was proved neutral.
  show (Scan.run ⟨.outside, [opener]⟩ (inner.toList ++ after.toList)) = _
  rw [Scan.run_append, h.within]
  exact closes

/-- Neutral texts stay neutral when they are joined by a neutral one. -/
theorem neutral_join {separator : String} (hs : Neutral separator) :
    ∀ texts : List String, (∀ t ∈ texts, Neutral t) → Neutral (join separator texts)
  | [], _ => neutral_empty
  | [t], h => h t List.mem_cons_self
  | t :: u :: rest, h => by
      have first : Neutral t := h t List.mem_cons_self
      have others := neutral_join hs (u :: rest) fun v hv => h v (List.mem_cons_of_mem t hv)
      exact (first.append hs).append others

/-! ## String literals -/

/-- No hexadecimal digit ends a literal or starts an escape. -/
theorem digitChar_plain : ∀ n < 16, Nat.digitChar n ≠ '\\' ∧ Nat.digitChar n ≠ '"' := by
  decide

/-- Inside a literal an escaped character leaves the scan inside. -/
theorem run_escape (c : Char) (stack : List Char) :
    Scan.run ⟨.inside, stack⟩ (Quoted.escape c) = some ⟨.inside, stack⟩ := by
  rw [Quoted.escape]
  -- The short escapes are a backslash and one more character, whatever it is.
  split
  · rfl
  split
  · rfl
  split
  · rfl
  split
  · rfl
  split
  · rfl
  split
  · rfl
  split
  · rfl
  split
  · rename_i control
    obtain ⟨high₁, high₂⟩ := digitChar_plain (c.toNat / 16) (by omega)
    obtain ⟨low₁, low₂⟩ := digitChar_plain (c.toNat % 16) (by omega)
    simp [Scan.run, Scan.step, high₁, high₂, low₁, low₂]
  · rename_i backslash quote _ _ _ _ _ _
    simp [Scan.run, Scan.step, backslash, quote]

/-- No escaped text leaves the string literal that it stands in. -/
theorem run_escaped (cs : List Char) (stack : List Char) :
    Scan.run ⟨.inside, stack⟩ (cs.flatMap Quoted.escape) = some ⟨.inside, stack⟩ := by
  induction cs with
  | nil => rfl
  | cons c cs ih =>
      rw [List.flatMap_cons, Scan.run_append, run_escape]
      exact ih

/-- **NO ESCAPE FROM A LITERAL**: a quoted text is neutral, whatever the text. -/
theorem neutral_quote (text : String) : Neutral (quote text) := by
  rw [Neutral, quote, String.toList_ofList, Quoted.encode]
  show Scan.run ⟨.inside, []⟩ (text.toList.flatMap Quoted.escape ++ ['"']) = _
  rw [Scan.run_append, run_escaped]
  rfl

end Vdom.Text
