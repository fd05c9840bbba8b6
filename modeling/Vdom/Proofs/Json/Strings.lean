import Vdom.Proofs.Json.Writing
/-!
# Strings — a strict reader, and literals that end themselves

A reader is strict if it accepts what the grammar allows and nothing else. Then a text that it has
read can be taken apart again, and what a quoted text says can be told from any text that starts
with it.

* **`readText_spells`** — what is read is spelled: the converse of `readText_spelled`, by recursion
  on the reader, with one way of writing for each way in which it takes a character.
* **`readString_iff`** — the reader of strings is strict.
* **`quote_delimits`** — so a quoted text delimits itself, in front of any text.
-/

namespace Vdom.Json

/-! ## What is read is spelled -/

/-- A text that was read with a character in front was read behind it. -/
theorem consRead_ok {c : Char} {s left : List Char} {read : Except Problem (List Char × List Char)}
    (ok : consRead c read = .ok (s, left)) : ∃ t, s = c :: t ∧ read = .ok (t, left) := by
  cases read with
  | error p => exact nomatch ok
  | ok result =>
      obtain ⟨t, rest⟩ := result
      obtain ⟨rfl, rfl⟩ := Prod.mk.inj (Except.ok.inj ok)
      exact ⟨t, rfl, rfl⟩

/-- The reader knows no letters beyond those of the grammar. -/
theorem mem_shortEscapes {letter c : Char} (known : shortEscape? letter = some c) :
    (letter, c) ∈ shortEscapes := by
  unfold shortEscape? at known
  repeat' split at known
  all_goals cases known
  all_goals subst letter; decide

theorem digit?_lt {c : Char} {d : Nat} (digit : Text.Hex.digit? c = some d) : d < 16 := by
  simp only [Text.Hex.digit?, Char.le_def, UInt32.le_iff_toNat_le, Char.reduceVal,
    UInt32.reduceToNat, ← Char.toNat_val] at digit
  repeat' split at digit
  all_goals cases digit
  all_goals omega

/-- Digits make a number of no more places than there are digits. -/
theorem readDigits?_lt {acc n : Nat} {cs : List Char}
    (read : Text.Hex.readDigits? acc cs = some n) : n < (acc + 1) * Nat.pow 16 cs.length := by
  induction cs generalizing acc with
  | nil =>
      obtain rfl := Option.some.inj read
      show acc < (acc + 1) * 1
      omega
  | cons c cs ih =>
      rw [Text.Hex.readDigits?] at read
      cases digit : Text.Hex.digit? c with
      | none => rw [digit] at read; exact nomatch read
      | some d =>
          rw [digit] at read
          have small := digit?_lt digit
          calc n < (acc * 16 + d + 1) * Nat.pow 16 cs.length := ih read
            _ ≤ (acc + 1) * 16 * Nat.pow 16 cs.length := Nat.mul_le_mul_right _ (by omega)
            _ = (acc + 1) * Nat.pow 16 (c :: cs).length := by
                rw [Nat.mul_assoc, Nat.mul_comm 16]
                rfl

/-- Four digits spell a number of two bytes. -/
theorem hexWord?_lt {a b c d : Char} {n : Nat} (spelled : hexWord? a b c d = some n) :
    n < 0x10000 := by
  simpa using readDigits?_lt spelled

/-- A number of two bytes that is no half of a pair is a character. -/
theorem toNat_unit {n : Nat} (small : n < 0x10000) (high : isHighHalf n = false)
    (low : isLowHalf n = false) : (Char.ofNat n).toNat = n := by
  simp only [isHighHalf, isLowHalf, Bool.and_eq_false_iff, decide_eq_false_iff_not] at high low
  rw [Char.ofNat, dif_pos]
  · rfl
  · rw [Nat.isValidChar]
    omega

/-- **WHAT IS READ IS SPELLED**: the reader takes no character that is not written. -/
theorem readText_spells {cs s left : List Char} (read : readText cs = .ok (s, left)) :
    ∃ inner, Spells (s.map Char.toNat) inner ∧ cs = inner ++ '"' :: left := by
  fun_induction readText cs generalizing s with
  | case2 left =>
      obtain ⟨rfl, rfl⟩ := Prod.mk.inj (Except.ok.inj read)
      exact ⟨[], .done, rfl⟩
  -- Two escaped halves are one character, though the grammar counts code points.
  | case7 a b c d n first notLow high e f g h rest m second low ih =>
      obtain ⟨t, rfl, others⟩ := consRead_ok read
      obtain ⟨inner, spelled, rfl⟩ := ih others
      have pair := Spells.pair first high second low spelled
      rw [← toNat_joinHalves high low] at pair
      exact ⟨_, pair, rfl⟩
  | case13 a b c d rest n digits notLow notHigh ih =>
      obtain ⟨t, rfl, others⟩ := consRead_ok read
      obtain ⟨inner, spelled, rfl⟩ := ih others
      have high := (Bool.not_eq_true _).mp notHigh
      have low := (Bool.not_eq_true _).mp notLow
      have unit := Spells.unit digits high low spelled
      rw [← toNat_unit (hexWord?_lt digits) high low] at unit
      exact ⟨_, unit, rfl⟩
  | case15 letter rest _ _ c known ih =>
      obtain ⟨t, rfl, others⟩ := consRead_ok read
      obtain ⟨inner, spelled, rfl⟩ := ih others
      exact ⟨_, .short (mem_shortEscapes known) spelled, rfl⟩
  | case18 c rest quote last _ _ escape printable ih =>
      -- A backslash that escapes nothing would be the last character, and then no quote follows.
      have backslash : c ≠ '\\' := by
        intro same
        cases rest with
        | nil => exact last same rfl
        | cons letter rest => exact escape letter rest same rfl
      obtain ⟨t, rfl, others⟩ := consRead_ok read
      obtain ⟨inner, spelled, rfl⟩ := ih others
      exact ⟨_, .plain quote backslash (Nat.le_of_not_lt printable) spelled, rfl⟩
  | _ => exact nomatch read

theorem points_ofList (cs : List Char) : points (String.ofList cs) = cs.map Char.toNat := by
  rw [points, String.toList_ofList]

/-- **STRICT**: a string is read exactly where one is written, blanks before it allowed, and what is
    left is what follows it. -/
theorem readString_iff {cs rest : List Char} {s : String} :
    readString cs = .ok (s, rest)
      ↔ ∃ blank literal, Blank blank ∧ Written (.text (points s)) literal
        ∧ cs = blank ++ (literal ++ rest) := by
  constructor
  · intro read
    have blank : Blank (cs.takeWhile isSpace) :=
      fun c there => isSpace_iff.mp (List.mem_takeWhile_imp there)
    -- The reader drops blanks without noting them; here they are named, to be put back.
    have whole : cs = cs.takeWhile isSpace ++ skipSpace cs := List.takeWhile_append_dropWhile.symm
    rw [readString, readStringAs] at read
    split at read
    · rename_i inside opened
      cases text : readText inside with
      | error p => rw [text] at read; cases read
      | ok result =>
          obtain ⟨t, left⟩ := result
          rw [text] at read
          obtain ⟨rfl, rfl⟩ := Prod.mk.inj (Except.ok.inj read)
          obtain ⟨inner, spelled, rfl⟩ := readText_spells text
          rw [← points_ofList] at spelled
          refine ⟨_, _, blank, .text spelled, ?_⟩
          rw [opened] at whole
          simpa using whole
    · cases read
  · rintro ⟨blank, literal, hb, written, rfl⟩
    exact readString_written hb written rest

/-! ## Quoted texts -/

open Text.Quoted (escape encode)

theorem printable_digit : ∀ n < 16, 0x20 ≤ (Nat.digitChar n).toNat := by decide

/-- A character is written without control characters, whatever it is. -/
theorem printable_escape (c : Char) : ∀ d ∈ escape c, 0x20 ≤ d.toNat := by
  rw [escape]
  -- Seven characters have an escape of their own.
  iterate 7
    split
    · simp
  split
  · rename_i control
    have high := printable_digit (c.toNat / 16) (by omega)
    have low := printable_digit (c.toNat % 16) (by omega)
    simp [high, low]
  · rename_i printable
    simpa using printable

/-- A quoted string has no control characters, whatever is in the string. -/
theorem printable_quote (s : String) : ∀ d ∈ (quote s).toList, 0x20 ≤ d.toNat := by
  intro d there
  simp only [quote, String.toList_ofList, encode, List.mem_cons, List.mem_append, List.mem_flatMap,
    List.not_mem_nil, or_false] at there
  obtain rfl | ⟨c, -, there⟩ | rfl := there
  · decide
  · exact printable_escape c d there
  · decide

/-- A quoted string is read back, and what follows it is left. -/
theorem readString_quote (s : String) (rest : List Char) :
    readString ((quote s).toList ++ rest) = .ok (s, rest) := by
  have read := readString_written blank_nil (quote_written s) rest
  rwa [List.nil_append] at read

/-- What starts with two quoted texts starts with one text quoted twice. -/
theorem quote_decodes {s t : String} {rest more : List Char}
    (same : (quote s).toList ++ rest = (quote t).toList ++ more) : s = t ∧ rest = more := by
  have read := readString_quote s rest
  rw [same, readString_quote t more] at read
  obtain ⟨rfl, rfl⟩ := Prod.mk.inj (Except.ok.inj read)
  exact ⟨rfl, rfl⟩

/-- **A QUOTED TEXT DELIMITS ITSELF**. The reader of strings is strict; from a quoted text with any
    text behind it, it takes the quoted text and nothing else, and yields what was quoted; and no
    quoted text contains a control character. So different texts are quoted differently, and none
    as the beginning of another. -/
theorem quote_delimits :
    (∀ cs s rest, readString cs = .ok (s, rest)
      ↔ ∃ blank literal, Blank blank ∧ Written (.text (points s)) literal
        ∧ cs = blank ++ (literal ++ rest))
    ∧ (∀ s rest, readString ((quote s).toList ++ rest) = .ok (s, rest))
    ∧ (∀ s, ∀ c ∈ (quote s).toList, 0x20 ≤ c.toNat)
    ∧ Function.Injective quote
    ∧ ∀ s t, (quote s).toList <+: (quote t).toList ↔ s = t := by
  -- A quoted text in front of another is read back from both, so that they are one.
  have apart : ∀ s t, (quote s).toList <+: (quote t).toList ↔ s = t := by
    intro s t
    constructor
    · rintro ⟨rest, same⟩
      have same : (quote s).toList ++ rest = (quote t).toList ++ [] := by
        rw [same, List.append_nil]
      exact (quote_decodes same).1
    · rintro rfl
      exact List.prefix_rfl
  refine ⟨fun _ _ _ => readString_iff, readString_quote, printable_quote, ?_, apart⟩
  intro s t same
  exact (apart s t).mp (same ▸ List.prefix_rfl)

end Vdom.Json
