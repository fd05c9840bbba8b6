import Mathlib.Data.List.Basic
import Mathlib.Data.List.DropRight
import Vdom.Text.Blank
import Vdom.Text.Hex
import Vdom.Text.Parts
/-!
# Parts read back — what is joined is cut again, and what is padded is trimmed

A text that is cut at a mark falls into the pieces that were joined with it, as long as the mark is
in none of them. Blanks around a piece are trimmed away if it neither starts nor ends with one.
Hexadecimal digits have one value, in whichever case they are written.

* **`splitAt_join`** — cutting undoes joining.
* **`trim_padded`** — trimming undoes padding.
* **`Hex.read?_spelled`**, **`Hex.spelled_write`** — digits are read as the word that they spell,
  and a word is written in digits that spell it.
-/

namespace Vdom.Text

/-! ## Cutting -/

variable {mark : Char}

/-- Without the mark there is one piece. -/
theorem splitAt_free {cs : List Char} (free : mark ∉ cs) : splitAt mark cs = [cs] := by
  induction cs with
  | nil => rfl
  | cons c cs ih =>
      rw [splitAt, if_neg (Ne.symm (List.ne_of_not_mem_cons free)),
        ih (List.not_mem_of_not_mem_cons free)]

/-- A piece ends at the first mark. -/
theorem splitAt_append {cs : List Char} (free : mark ∉ cs) (rest : List Char) :
    splitAt mark (cs ++ mark :: rest) = cs :: splitAt mark rest := by
  induction cs with
  | nil => exact if_pos rfl
  | cons c cs ih =>
      rw [List.cons_append, splitAt, if_neg (Ne.symm (List.ne_of_not_mem_cons free)),
        ih (List.not_mem_of_not_mem_cons free)]

/-- **CUT WHERE THEY WERE JOINED**. -/
theorem splitAt_join {separator : String} (single : separator.toList = [mark]) :
    ∀ {pieces : List String}, pieces ≠ [] → (∀ piece ∈ pieces, mark ∉ piece.toList) →
      splitAt mark (join separator pieces).toList = pieces.map String.toList := by
  intro pieces
  induction pieces with
  | nil => intro some _; exact absurd rfl some
  | cons piece rest ih =>
      intro _ free
      obtain ⟨here, there⟩ := List.forall_mem_cons.mp free
      cases rest with
      | nil => exact splitAt_free here
      | cons second others =>
          -- The first piece ends at the first mark, since it has none itself.
          have shape : (join separator (piece :: second :: others)).toList
              = piece.toList ++ mark :: (join separator (second :: others)).toList := by
            show (piece ++ separator ++ join separator (second :: others)).toList = _
            rw [String.toList_append, String.toList_append, single, List.append_assoc]
            rfl
          rw [shape, splitAt_append here, ih (List.cons_ne_nil _ _) there]
          rfl

/-! ## Trimming -/

/-- Only blanks. -/
def Blanks (cs : List Char) : Prop := ∀ c ∈ cs, isBlank c = true

theorem blanks_nil : Blanks [] := List.forall_mem_nil _

theorem blanks_single {c : Char} (blank : isBlank c = true) : Blanks [c] :=
  fun _ there => List.mem_singleton.mp there ▸ blank

/-- Blanks before the first other character are dropped. -/
theorem dropWhile_blanks {before cs : List Char} (blanks : Blanks before)
    (dense : ∀ c ∈ cs.head?, isBlank c = false) : (before ++ cs).dropWhile isBlank = cs := by
  rw [List.dropWhile_append_of_pos blanks]
  cases cs with
  | nil => rfl
  | cons c cs => exact List.dropWhile_cons_of_neg (ne_true_of_eq_false (dense c rfl))

/-- **TRIMMED TO THE PART**: blanks around a text that neither starts nor ends with one. -/
theorem trim_padded {before part after : List Char} (hb : Blanks before) (ha : Blanks after)
    (filled : part ≠ []) (dense : ∀ c ∈ part, isBlank c = false) :
    trim (before ++ (part ++ after)) = part := by
  have first : ∀ c ∈ (part ++ after).head?, isBlank c = false := by
    rw [List.head?_append_of_ne_nil _ filled]
    exact fun c there => dense c (List.mem_of_mem_head? there)
  have last : ∀ c ∈ part.reverse.head?, isBlank c = false :=
    fun c there => dense c (List.mem_reverse.mp (List.mem_of_mem_head? there))
  have behind : Blanks after.reverse := fun c there => ha c (List.mem_reverse.mp there)
  rw [trim, dropWhile_blanks hb first, List.reverse_append, dropWhile_blanks behind last,
    List.reverse_reverse]

/-- Something is left of a text with a character that is not blank. -/
theorem trim_ne_nil {cs : List Char} {c : Char} (there : c ∈ cs) (dense : isBlank c = false) :
    trim cs ≠ [] := by
  intro none
  rw [trim, List.reverse_eq_nil_iff, List.dropWhile_eq_nil_iff] at none
  have blank : Blanks (cs.dropWhile isBlank) := fun d hd => none d (List.mem_reverse.mpr hd)
  have left : cs.dropWhile isBlank = [] := by
    rw [← List.dropWhile_idempotent, List.dropWhile_eq_nil_iff]
    exact blank
  rw [List.dropWhile_eq_nil_iff] at left
  exact ne_true_of_eq_false dense (left c there)

end Vdom.Text

namespace Vdom.Text.Hex

/-! ## Hexadecimal digits -/

/-- A digit of either case with its value. -/
def Digit (c : Char) (d : Nat) : Prop :=
  d < 16 ∧ (c = Nat.digitChar d ∨ c = (Nat.digitChar d).toUpper)

/-- Digits, zeros in front among them, with the value that they spell. -/
inductive Spelled : List Char → Nat → Prop where
  | single {c : Char} {d : Nat} : Digit c d → Spelled [c] d
  | more {cs : List Char} {n : Nat} {c : Char} {d : Nat} :
      Spelled cs n → Digit c d → Spelled (cs ++ [c]) (n * 16 + d)

/-- A digit of either case is read as what it is worth. -/
theorem digit?_of_digit {c : Char} {d : Nat} (digit : Digit c d) : digit? c = some d := by
  have both : ∀ d < 16, digit? (Nat.digitChar d) = some d
      ∧ digit? (Nat.digitChar d).toUpper = some d := by decide
  obtain ⟨small, rfl | rfl⟩ := digit
  · exact (both d small).1
  · exact (both d small).2

/-- Digits are neither blank nor signs nor bars. -/
theorem Digit.plain {c : Char} {d : Nat} (digit : Digit c d) :
    isBlank c = false ∧ c ≠ '|' ∧ c ≠ '+' := by
  have lower : ∀ d < 16, isBlank (Nat.digitChar d) = false
      ∧ Nat.digitChar d ≠ '|' ∧ Nat.digitChar d ≠ '+' := by decide
  have upper : ∀ d < 16, isBlank (Nat.digitChar d).toUpper = false
      ∧ (Nat.digitChar d).toUpper ≠ '|' ∧ (Nat.digitChar d).toUpper ≠ '+' := by decide
  obtain ⟨small, rfl | rfl⟩ := digit
  · exact lower d small
  · exact upper d small

/-- One digit more at the end is worth itself, and what is before it counts sixteenfold. -/
theorem readDigits?_concat (acc : Nat) (cs : List Char) (c : Char) :
    readDigits? acc (cs ++ [c])
      = (readDigits? acc cs).bind fun n => (digit? c).map fun d => n * 16 + d := by
  induction cs generalizing acc with
  | nil =>
      rw [List.nil_append, readDigits?, readDigits?]
      cases digit? c with
      | none => rfl
      | some d => rfl
  | cons first cs ih =>
      rw [List.cons_append, readDigits?, readDigits?]
      cases digit? first with
      | none => rfl
      | some d => exact ih (acc * 16 + d)

variable {cs : List Char} {n : Nat}

/-- A spelling has at least one digit, and nothing but digits. -/
theorem Spelled.digits (spelled : Spelled cs n) :
    cs ≠ [] ∧ ∀ c ∈ cs, ∃ d, Digit c d := by
  induction spelled with
  | single digit => exact ⟨List.cons_ne_nil _ _, List.forall_mem_singleton.mpr ⟨_, digit⟩⟩
  | more _ digit ih =>
      refine ⟨List.concat_ne_nil _ _, List.forall_mem_append.mpr ⟨ih.2, ?_⟩⟩
      exact List.forall_mem_singleton.mpr ⟨_, digit⟩

/-- A spelling is read as its number. -/
theorem Spelled.readDigits? (spelled : Spelled cs n) : readDigits? 0 cs = some n := by
  induction spelled with
  | @single c d digit =>
      have first := readDigits?_concat 0 [] c
      rw [digit?_of_digit digit] at first
      exact first.trans (congrArg some (Nat.zero_add d))
  | more _ digit ih =>
      rw [readDigits?_concat, ih, digit?_of_digit digit]
      rfl

/-- **READ BY VALUE**: the digits of a word, whatever their case and however many zeros stand in
    front of them. -/
theorem read?_spelled {w : UInt32} (spelled : Spelled cs w.toNat) : read? cs = some w := by
  obtain ⟨filled, digits⟩ := spelled.digits
  have value := spelled.readDigits?
  obtain ⟨c, others, rfl⟩ := List.exists_cons_of_ne_nil filled
  have unsigned : dropPlus (c :: others) = c :: others := by
    obtain ⟨d, digit⟩ := digits c List.mem_cons_self
    rw [dropPlus]
    rintro rest ⟨⟩
    exact digit.plain.2.2 rfl
  rw [read?, unsigned]
  simp only [value, if_pos w.toNat_lt, UInt32.ofNat_toNat]

/-- Hexadecimal digits of a number spell it. -/
theorem spelled_toDigits (n : Nat) : Spelled (Nat.toDigits 16 n) n := by
  -- From the last digit on, as they are produced.
  induction n using Nat.strongRecOn with
  | ind n ih =>
      rcases Nat.lt_or_ge n 16 with single | more
      · rw [Nat.toDigits_of_lt_base single]
        exact .single ⟨single, .inl rfl⟩
      · have before := ih (n / 16) (Nat.div_lt_self (by omega) (by decide))
        have digit : Digit (Nat.digitChar (n % 16)) (n % 16) :=
          ⟨Nat.mod_lt n (by decide), .inl rfl⟩
        have spelled := Spelled.more before digit
        rw [Nat.div_add_mod'] at spelled
        rw [Nat.toDigits_of_base_le (by decide) more]
        exact spelled

theorem spelled_write (w : UInt32) : Spelled (write w) w.toNat := spelled_toDigits w.toNat

end Vdom.Text.Hex
