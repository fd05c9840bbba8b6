import Vdom.Decimal.Notation
import Vdom.Proofs.Decimal.Interval
import Vdom.Proofs.Json.Reading
/-!
# Numerals — what written digits stand for

A numeral stands for a rational value, whatever number it is rounded to. Digits and a place of the
point are written in one of five ways (`Placed`), and each of them is a numeral of the value that
the digits have with the point at that place.

* **`readUnsigned_body`** — a numeral is read back from its text.
* **`place_placed`** — a layout writes digits in one of the five ways.
* **`place?_eq`** — and never cuts them behind their end.
* **`Placed.numeral`** — each way is a numeral of the same value.
-/

namespace Vdom.Json

/-! ## Values and texts of numerals -/

namespace Numeral

/-- The digits behind the point. -/
def behind (n : Numeral) : List Char := n.fraction.getD []

/-- The absolute value. -/
def magnitude (n : Numeral) : ℚ :=
  Nat.ofDigitChars 10 (n.whole ++ n.behind) 0 * 10 ^ (n.givenExponent - n.behind.length)

/-- The value that a numeral stands for. -/
def exact (n : Numeral) : ℚ := Binary64.signed n.negative n.magnitude

/-- The digits are where they should be. -/
structure Legal (n : Numeral) : Prop where
  whole : Whole n.whole
  fraction : ∀ ds, n.fraction = some ds → Digits ds
  exponent : ∀ sign ds, n.exponent = some (sign, ds) → Digits ds

/-- The digits behind the point with the point, if there are any. -/
def fractionText : Option (List Char) → List Char
  | none => []
  | some ds => '.' :: ds

/-- The exponent with its letter and its sign, if there is one. -/
def exponentText : Option (Bool × List Char) → List Char
  | none => []
  | some (negative, ds) => 'e' :: (if negative then '-' else '+') :: ds

/-- The text of a numeral but for its sign. -/
def body (n : Numeral) : List Char :=
  n.whole ++ (fractionText n.fraction ++ exponentText n.exponent)

/-- Digits with a point among them, and no exponent. -/
theorem body_fraction (negative : Bool) (whole fraction : List Char) :
    (mk negative whole (some fraction) none).body = whole ++ '.' :: fraction := by
  rw [body, exponentText, List.append_nil]
  rfl

end Numeral

section Reading

variable {atEnd : Problem}

/-- The text of an exponent is read back to its end. -/
theorem readExponent_text {exponent : Option (Bool × List Char)}
    (legal : ∀ sign ds, exponent = some (sign, ds) → Digits ds) :
    readExponent atEnd (Numeral.exponentText exponent) = .ok (exponent, []) := by
  cases exponent with
  | none => rfl
  | some e =>
      obtain ⟨negative, ds⟩ := e
      have read : readDigits atEnd (ds ++ []) = .ok (ds, []) :=
        readDigits_ok (legal negative ds rfl) nofun
      rw [List.append_nil] at read
      cases negative with
      | false =>
          rw [Numeral.exponentText, if_neg Bool.false_ne_true, readExponent, readExponentDigits,
            read]
          rfl
      | true =>
          rw [Numeral.exponentText, if_pos rfl, readExponent, readExponentDigits, read]
          rfl

/-- What follows the digits of a numeral is no digit. -/
theorem exponentText_stops (exponent : Option (Bool × List Char)) :
    ∀ c ∈ (Numeral.exponentText exponent).head?, isDigit c = false ∧ c ≠ '.' := by
  cases exponent with
  | none => exact nofun
  | some e =>
      rintro _ ⟨⟩
      decide

/-- The text of a fraction is read back, up to the exponent. -/
theorem readFraction_text {fraction : Option (List Char)} {exponent : Option (Bool × List Char)}
    (legal : ∀ ds, fraction = some ds → Digits ds) :
    readFraction atEnd (Numeral.fractionText fraction ++ Numeral.exponentText exponent)
      = .ok (fraction, Numeral.exponentText exponent) := by
  cases fraction with
  | none => exact readFraction_none fun c there => (exponentText_stops exponent c there).2
  | some ds =>
      have read : readDigits atEnd (ds ++ Numeral.exponentText exponent)
          = .ok (ds, Numeral.exponentText exponent) :=
        readDigits_ok (legal ds rfl) fun c there => (exponentText_stops exponent c there).1
      rw [Numeral.fractionText, List.cons_append, readFraction, read]
      rfl

/-- What follows the digits before the point starts with no digit. -/
theorem fractionText_stops (fraction : Option (List Char)) (exponent : Option (Bool × List Char)) :
    ∀ c ∈ (Numeral.fractionText fraction ++ Numeral.exponentText exponent).head?,
      isDigit c = false := by
  cases fraction with
  | none => exact fun c there => (exponentText_stops exponent c there).1
  | some ds =>
      rintro _ ⟨⟩
      decide

/-- A numeral without its sign is read back. -/
theorem readUnsigned_body {n : Numeral} (legal : n.Legal) :
    readUnsigned atEnd n.negative n.body = .ok (n, []) := by
  obtain ⟨negative, whole, fraction, exponent⟩ := n
  simp only [Numeral.body, readUnsigned, bind, Except.bind,
    readWhole_ok atEnd legal.whole (fractionText_stops fraction exponent),
    readFraction_text legal.fraction, readExponent_text legal.exponent]

/-- **READ BACK**: a numeral is read from its text, with a minus in front if it is negative. -/
theorem readNumeral_text {n : Numeral} (legal : n.Legal) :
    readNumeral atEnd ((if n.negative then ['-'] else []) ++ n.body) = .ok (n, []) := by
  have read : readUnsigned atEnd n.negative n.body = .ok (n, []) := readUnsigned_body legal
  cases sign : n.negative with
  | true =>
      rw [sign] at read
      exact read
  | false =>
      rw [sign] at read
      obtain ⟨d, others, shape⟩ := List.exists_cons_of_ne_nil legal.whole.1.1
      have digit : isDigit d = true := legal.whole.1.2 d (shape ▸ List.mem_cons_self)
      rw [if_neg Bool.false_ne_true, List.nil_append]
      rw [Numeral.body, shape, List.cons_append] at read ⊢
      rw [readNumeral_digit digit, read]

end Reading

end Vdom.Json

namespace Vdom.Decimal

/-! ## Where the point goes -/

/-- The exponent of a numeral in scientific form. -/
def written (e : Int) : Option (Bool × List Char) := some (decide (e < 0), Nat.toDigits 10 e.natAbs)

/-- The ways in which a layout writes digits with the point after so many of them. -/
inductive Placed (l : Layout) : List Char → Int → List Char → Prop where
  /-- A whole number, with zeros up to the point. -/
  | whole (ds : List Char) (zeros : Nat) :
      ds.length + zeros ≤ l.widest →
      Placed l ds (ds.length + zeros) (ds ++ List.replicate zeros '0' ++ l.wholeMark)
  /-- The point among the digits. -/
  | among (front back : List Char) :
      front ≠ [] → back ≠ [] → front.length ≤ l.widest →
      Placed l (front ++ back) front.length (front ++ '.' :: back)
  /-- The point before the digits, with zeros behind it. -/
  | before (ds : List Char) (zeros : Nat) :
      l.deepest < -zeros →
      Placed l ds (-zeros) ('0' :: '.' :: (List.replicate zeros '0' ++ ds))
  /-- One digit with an exponent. -/
  | single (d : Char) (e : Int) :
      l.widest ≤ e ∨ e < l.deepest →
      Placed l [d] (e + 1) (d :: Json.Numeral.exponentText (written e))
  /-- One digit before the point and the others behind it, with an exponent. -/
  | scientific (d : Char) (rest : List Char) (e : Int) :
      rest ≠ [] → l.widest ≤ e ∨ e < l.deepest →
      Placed l (d :: rest) (e + 1) (d :: '.' :: (rest ++ Json.Numeral.exponentText (written e)))

/-- The exponent form is one of the last two ways. -/
theorem scientific_placed {l : Layout} {ds : List Char} (some : ds ≠ []) {e : Int}
    (beyond : l.widest ≤ e ∨ e < l.deepest) : Placed l ds (e + 1) (scientific ds e) := by
  have sign : (if 0 ≤ e then '+' else '-') = if decide (e < 0) then '-' else '+' := by
    by_cases below : e < 0
    · rw [if_neg (not_le.mpr below), decide_eq_true below, if_pos rfl]
    · rw [if_pos (not_lt.mp below), decide_eq_false below, if_neg Bool.false_ne_true]
  match ds with
  | [d] =>
      simp only [scientific, sign]
      exact .single d e beyond
  | d :: second :: others =>
      simp only [scientific, sign]
      exact .scientific d (second :: others) e (List.cons_ne_nil _ _) beyond

/-- **ONE OF FIVE WAYS**. -/
theorem place_placed (l : Layout) {ds : List Char} (some : ds ≠ []) (point : Int) :
    Placed l ds point (l.place ds point) := by
  have digits : 0 < ds.length := List.length_pos_of_ne_nil some
  rw [Layout.place]
  split
  -- The point is behind all digits, among them, before them, or not written at all.
  · rename_i whole
    obtain ⟨zeros, rfl⟩ := Int.le.dest whole.1
    rw [show ((ds.length : Int) + zeros - ds.length).toNat = zeros by omega]
    exact .whole ds zeros whole.2
  rename_i noWhole
  split
  · rename_i among
    obtain ⟨place, rfl⟩ := Int.eq_ofNat_of_zero_le among.1.le
    have inside : place < ds.length := by omega
    have front : (ds.take place).length = place := List.length_take_of_le inside.le
    have back : (ds.drop place).length = ds.length - place := List.length_drop
    have placed : Placed l (ds.take place ++ ds.drop place) (ds.take place).length
        (ds.take place ++ '.' :: ds.drop place) :=
      .among _ _ (List.ne_nil_of_length_pos (by omega)) (List.ne_nil_of_length_pos (by omega))
        (by omega)
    rw [List.take_append_drop, front] at placed
    exact placed
  rename_i noPoint
  split
  · rename_i before
    obtain ⟨zeros, hz⟩ := Int.eq_ofNat_of_zero_le (Int.neg_nonneg_of_nonpos before.2)
    obtain rfl : point = -zeros := by omega
    rw [Int.neg_neg, Int.toNat_natCast]
    exact .before ds zeros before.1
  · have beyond : l.widest ≤ point - 1 ∨ point - 1 < l.deepest := by omega
    have placed := scientific_placed some beyond
    rw [Int.sub_add_cancel] at placed
    exact placed

/-! ## No slice out of range -/

/-- The digits cut after `n` of them, if there are so many. -/
def cut? (ds : List Char) (n : Nat) : Option (List Char × List Char) :=
  if n ≤ ds.length then some (ds.take n, ds.drop n) else none

/-- What `place` writes, with every cut of the digits checked. -/
def Layout.place? (l : Layout) (ds : List Char) (point : Int) : Option (List Char) :=
  if ds.length ≤ point ∧ point ≤ l.widest then
    some (ds ++ List.replicate (point - ds.length).toNat '0' ++ l.wholeMark)
  else if 0 < point ∧ point ≤ l.widest then
    (cut? ds point.toNat).map fun (front, back) => front ++ '.' :: back
  else if l.deepest < point ∧ point ≤ 0 then
    some ('0' :: '.' :: (List.replicate (-point).toNat '0' ++ ds))
  else
    (cut? ds 1).map fun (first, others) =>
      first ++ (if 1 < ds.length then '.' :: others else [])
        ++ 'e' :: (if 0 < point then '+' else '-') :: Nat.toDigits 10 (point - 1).natAbs

theorem cut?_of_le {ds : List Char} {n : Nat} (inside : n ≤ ds.length) :
    cut? ds n = some (ds.take n, ds.drop n) := if_pos inside

/-- **NEVER BEHIND THE END**: no cut of the digits fails. -/
theorem place?_eq (l : Layout) {ds : List Char} (some : ds ≠ []) (point : Int) :
    l.place? ds point = .some (l.place ds point) := by
  have digits : 0 < ds.length := List.length_pos_of_ne_nil some
  rw [Layout.place?, Layout.place]
  split
  · rfl
  split
  · rw [cut?_of_le (by omega)]
    rfl
  split
  · rfl
  -- One digit may be cut off since there is one; whether others follow decides about the point.
  · have sign : 0 ≤ point - 1 ↔ 0 < point := by omega
    rw [cut?_of_le digits]
    match ds with
    | [d] =>
        simp only [scientific, sign]
        rfl
    | d :: second :: others =>
        have more : 1 < (d :: second :: others).length := Nat.succ_lt_succ (Nat.succ_pos _)
        simp only [scientific, sign, if_pos more]
        rfl

/-! ## What the text stands for -/

/-- The value of digits with the point after so many of them. -/
def placeValue (ds : List Char) (point : Int) : ℚ :=
  Nat.ofDigitChars 10 ds 0 * 10 ^ (point - ds.length)

/-- Zeros behind digits move the point. -/
theorem ofDigitChars_zeros (ds : List Char) (zeros : Nat) :
    Nat.ofDigitChars 10 (ds ++ List.replicate zeros '0') 0
      = Nat.ofDigitChars 10 ds 0 * 10 ^ zeros := by
  rw [Nat.ofDigitChars_append, Nat.ofDigitChars_replicate_zero]
  ring

/-- Zeros before digits count for nothing. -/
theorem ofDigitChars_after_zeros (ds : List Char) (zeros : Nat) :
    Nat.ofDigitChars 10 (List.replicate zeros '0' ++ ds) 0 = Nat.ofDigitChars 10 ds 0 := by
  rw [Nat.ofDigitChars_append, Nat.ofDigitChars_replicate_zero, Nat.mul_zero]

/-- The number that digits make, as the reader counts it, is the one that they stand for. -/
theorem foldl_digits (ds : List Char) (first : Nat) :
    ds.foldl (fun (acc : Int) d => acc * 10 + Json.digitValue d) first
      = Nat.ofDigitChars 10 ds first := by
  induction ds generalizing first with
  | nil => rfl
  | cons d ds ih =>
      rw [List.foldl_cons, Nat.ofDigitChars_cons, ← ih, Json.digitValue]
      push_cast
      rw [Int.mul_comm]

/-- An exponent says what it was written for. -/
theorem givenExponent_written (negative : Bool) (whole : List Char) (fraction : Option (List Char))
    (e : Int) : (Json.Numeral.mk negative whole fraction (written e)).givenExponent = e := by
  have size : (Nat.toDigits 10 e.natAbs).foldl
      (fun (acc : Int) d => acc * 10 + Json.digitValue d) 0 = e.natAbs :=
    (foldl_digits _ 0).trans (congrArg _ Nat.ofDigitChars_ten_toDigits)
  simp only [Json.Numeral.givenExponent, written, size]
  by_cases below : e < 0
  · rw [decide_eq_true below, if_pos rfl]
    omega
  · rw [decide_eq_false below, if_neg Bool.false_ne_true]
    omega

theorem digits_written (e : Int) (sign : Bool) (ds : List Char)
    (shape : written e = some (sign, ds)) : Json.Digits ds := by
  cases shape
  exact (Json.whole_digits _).1

theorem isDigit_zeros (zeros : Nat) : ∀ c ∈ List.replicate zeros '0', Json.isDigit c = true := by
  intro c there
  rw [List.eq_of_mem_replicate there]
  decide

/-- The value of a numeral whose digits are others with zeros around them. -/
theorem magnitude_eq {n : Json.Numeral} {ds : List Char} (zeros : Nat) {point : Int}
    (digits : Nat.ofDigitChars 10 (n.whole ++ n.behind) 0 = Nat.ofDigitChars 10 ds 0 * 10 ^ zeros)
    (place : zeros + (n.givenExponent - n.behind.length) = point - ds.length) :
    n.magnitude = placeValue ds point := by
  rw [placeValue, Json.Numeral.magnitude, digits, ← place, zpow_add₀ (by norm_num), zpow_natCast]
  push_cast
  ring

/-- Digits without a zero in front may stand before the point. -/
theorem whole_of_digits {ds : List Char} (filled : ds ≠ []) (all : ∀ c ∈ ds, Json.isDigit c = true)
    (first : ds.head? ≠ some '0') : Json.Whole ds :=
  ⟨⟨filled, all⟩, fun zero => absurd zero first⟩

/-- Zeros may follow the digits of a whole number. -/
theorem whole_zeros {ds : List Char} (digits : Json.Digits ds) (first : ds.head? ≠ some '0')
    (zeros : Nat) : Json.Whole (ds ++ List.replicate zeros '0') := by
  obtain ⟨filled, all⟩ := digits
  refine whole_of_digits (List.append_ne_nil_of_left_ne_nil filled _) ?_ ?_
  · exact List.forall_mem_append.mpr ⟨all, isDigit_zeros zeros⟩
  · rw [List.head?_append_of_ne_nil _ filled]
    exact first

/-- Zeros may stand before the digits behind a point. -/
theorem digits_after_zeros {ds : List Char} (digits : Json.Digits ds) (zeros : Nat) :
    Json.Digits (List.replicate zeros '0' ++ ds) :=
  ⟨List.append_ne_nil_of_right_ne_nil _ digits.1,
    List.forall_mem_append.mpr ⟨isDigit_zeros zeros, digits.2⟩⟩

/-- **A NUMERAL OF THE SAME VALUE**. -/
theorem Placed.numeral {l : Layout} (plain : l.wholeMark = []) {ds : List Char} {point : Int}
    {cs : List Char} (placed : Placed l ds point cs) (digits : Json.Digits ds)
    (first : ds.head? ≠ some '0') (negative : Bool) :
    ∃ n : Json.Numeral, n.negative = negative ∧ n.Legal ∧ n.body = cs
      ∧ n.magnitude = placeValue ds point := by
  obtain ⟨filled, all⟩ := digits
  cases placed with
  -- In each form the numeral is named and its value found by how many places the point is moved.
  | whole ds zeros fits =>
      refine ⟨⟨negative, ds ++ List.replicate zeros '0', none, none⟩, rfl,
        ⟨whole_zeros ⟨filled, all⟩ first zeros, nofun, nofun⟩, by rw [plain]; rfl,
        magnitude_eq zeros ?_ ?_⟩
      · rw [Json.Numeral.behind, Option.getD_none, List.append_nil, ofDigitChars_zeros]
      · simp [Json.Numeral.givenExponent, Json.Numeral.behind]
  | among front back someFront someBack fits =>
      obtain ⟨allFront, allBack⟩ := List.forall_mem_append.mp all
      rw [List.head?_append_of_ne_nil _ someFront] at first
      have fraction : ∀ ds, some back = some ds → Json.Digits ds := by
        rintro _ ⟨⟩
        exact ⟨someBack, allBack⟩
      refine ⟨⟨negative, front, some back, none⟩, rfl,
        ⟨whole_of_digits someFront allFront first, fraction, nofun⟩,
        Json.Numeral.body_fraction negative front back, magnitude_eq 0 ?_ ?_⟩
      · rw [Json.Numeral.behind, Option.getD_some, Nat.pow_zero, Nat.mul_one]
      · simp [Json.Numeral.givenExponent, Json.Numeral.behind]
  -- The zero before the point is one more zero in front of the digits.
  | before ds zeros deep =>
      have fraction : ∀ cs, some (List.replicate zeros '0' ++ ds) = some cs → Json.Digits cs := by
        rintro _ ⟨⟩
        exact digits_after_zeros ⟨filled, all⟩ zeros
      refine ⟨⟨negative, ['0'], some (List.replicate zeros '0' ++ ds), none⟩, rfl,
        ⟨Json.whole_digits 0, fraction, nofun⟩, Json.Numeral.body_fraction negative _ _,
        magnitude_eq 0 ?_ ?_⟩
      · rw [Json.Numeral.behind, Option.getD_some, Nat.pow_zero, Nat.mul_one, ← List.append_assoc,
          List.singleton_append, ← List.replicate_succ, ofDigitChars_after_zeros]
      · rw [Json.Numeral.behind, Option.getD_some, List.length_append, List.length_replicate]
        simp [Json.Numeral.givenExponent, sub_eq_add_neg, add_comm]
  | single d e beyond =>
      refine ⟨⟨negative, [d], none, written e⟩, rfl,
        ⟨whole_of_digits filled all first, nofun, digits_written e⟩, rfl, magnitude_eq 0 ?_ ?_⟩
      · rw [Json.Numeral.behind, Option.getD_none, Nat.pow_zero, Nat.mul_one, List.append_nil]
      · rw [givenExponent_written]
        simp [Json.Numeral.behind]
  | scientific d rest e more beyond =>
      obtain ⟨digit, others⟩ := List.forall_mem_cons.mp all
      have whole : Json.Whole [d] :=
        whole_of_digits (List.cons_ne_nil d []) (List.forall_mem_singleton.mpr digit) first
      have fraction : ∀ ds, some rest = some ds → Json.Digits ds := by
        rintro _ ⟨⟩
        exact ⟨more, others⟩
      refine ⟨⟨negative, [d], some rest, written e⟩, rfl, ⟨whole, fraction, digits_written e⟩, rfl,
        magnitude_eq 0 ?_ ?_⟩
      · rw [Json.Numeral.behind, Option.getD_some, Nat.pow_zero, Nat.mul_one, List.singleton_append]
      · rw [givenExponent_written]
        simp [Json.Numeral.behind]

end Vdom.Decimal
