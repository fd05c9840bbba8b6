import Vdom.Binary64.Text
import Vdom.Proofs.Decimal.Numeral
import Vdom.Proofs.Decimal.Shortest
/-!
# Number text — a number is read back from its text

The text of a number is made of digits that round to it. `Renders` says what is asked of such
digits, whoever found them, and `laidOut` is the text that the layout makes of them, with every cut
of the digits checked.

* **`Renders.read`** — the text is a numeral whose exact value is that of the digits with the sign
  of the number, and it rounds to the number.
* **`shortest_renders`** — the digits in use are such digits.
* **`read_text`** — so a number is known by its text, infinities and zeros included.
* **`text_denotes`** — all of it, and the texts of two numbers are equal exactly if the numbers are.
-/

namespace Vdom.Binary64

open Decimal (placeValue shortest)

/-! ## Texts of digits -/

/-- Digits and an exponent of which a finite number is rendered: `d₁.d₂…dₖ × 10^e` rounds to its
    absolute value, and no zero stands at either end. -/
structure Renders (ds : List Char) (e : Int) (x : Binary64) : Prop where
  digits : Json.Digits ds
  first : ds.head? ≠ some '0'
  last : ds.getLast? ≠ some '0'
  rounds : round (placeValue ds (e + 1)) = x.unsigned

/-- The text of a number that is rendered by digits and an exponent, if no cut of the digits is
    behind their end. -/
def laidOut (x : Binary64) (ds : List Char) (e : Int) : Option (List Char) :=
  (pageLayout.place? ds (e + 1)).map ((if x.negative then ['-'] else []) ++ ·)

/-- Digits are laid out behind the sign; no cut of them fails. -/
theorem laidOut_eq (x : Binary64) {ds : List Char} (some : ds ≠ []) (e : Int) :
    x.laidOut ds e
      = .some ((if x.negative then ['-'] else []) ++ pageLayout.place ds (e + 1)) := by
  rw [laidOut, Decimal.place?_eq pageLayout some]
  rfl

/-- A digit other than zero counts for something. -/
theorem digitValue_pos {d : Char} (digit : Json.isDigit d = true) (other : d ≠ '0') :
    0 < d.toNat - '0'.toNat := by
  rw [Json.isDigit, Bool.and_eq_true, decide_eq_true_iff] at digit
  have least : '0'.toNat ≤ d.toNat := UInt32.le_iff_toNat_le.mp digit.1
  have apart : '0'.toNat ≠ d.toNat := fun same => other (Char.toNat_inj.mp same.symm)
  exact Nat.sub_pos_of_lt (lt_of_le_of_ne least apart)

/-- Digits without a zero in front are worth something. -/
theorem placeValue_pos {ds : List Char} (digits : Json.Digits ds) (first : ds.head? ≠ some '0')
    (point : Int) : 0 < placeValue ds point := by
  obtain ⟨d, others, rfl⟩ := List.exists_cons_of_ne_nil digits.1
  have some := digitValue_pos (digits.2 d List.mem_cons_self) fun zero => first (zero ▸ rfl)
  have positive : 0 < Nat.ofDigitChars 10 (d :: others) 0 := by
    rw [Nat.ofDigitChars_cons, Nat.ofDigitChars_eq_ofDigitChars_zero, Nat.mul_zero, Nat.zero_add]
    exact Nat.add_pos_left (Nat.mul_pos (Nat.pow_pos (by decide)) some) _
  exact mul_pos (Nat.cast_pos.mpr positive) (zpow_pos (by norm_num) _)

/-- **READ BACK FROM ANY SUCH DIGITS**: their text is a numeral of their value with the sign of the
    number, and rounding that value yields the number. -/
theorem Renders.read {ds : List Char} {e : Int} {x : Binary64} (renders : Renders ds e x)
    (finite : x.isFinite = true) :
    ∃ cs n, x.laidOut ds e = some cs ∧ Json.readNumeral .cutShort cs = .ok (n, [])
      ∧ n.exact = signed x.negative (placeValue ds (e + 1)) ∧ round n.exact = x := by
  obtain ⟨digits, first, -, rounds⟩ := renders
  have placed := Decimal.place_placed pageLayout digits.1 (e + 1)
  obtain ⟨n, sign, legal, body, magnitude⟩ := placed.numeral rfl digits first x.negative
  have exact : n.exact = signed x.negative (placeValue ds (e + 1)) := by
    rw [Json.Numeral.exact, sign, magnitude]
  refine ⟨_, n, laidOut_eq x digits.1 e, ?_, exact, ?_⟩
  · rw [← sign, ← body]
    exact Json.readNumeral_text legal
  · rw [exact]
    exact round_signed_of_unsigned finite (placeValue_pos digits first _) rounds

/-! ## The digits in use -/

/-- The last digit of a number that is no multiple of ten. -/
theorem getLast?_toDigits {n : Nat} (other : n % 10 ≠ 0) :
    (Nat.toDigits 10 n).getLast? ≠ some '0' := by
  have last : (Nat.toDigits 10 n).getLast? = some (n % 10).digitChar := by
    rcases Nat.lt_or_ge n 10 with single | more
    · rw [Nat.toDigits_of_lt_base single, Nat.mod_eq_of_lt single]
      rfl
    · rw [Nat.toDigits_of_base_le (by decide) more, List.getLast?_append]
      rfl
  rw [last]
  intro zero
  exact Json.digitChar_ne_zero _ (Nat.mod_lt n (by decide)) (Nat.pos_of_ne_zero other)
    (Option.some.inj zero)

theorem placeValue_digits (d : Decimal) : placeValue d.digits d.point = d.exact := by
  rw [placeValue, Decimal.digits, Nat.ofDigitChars_ten_toDigits, Decimal.point, Decimal.digits,
    add_sub_cancel_left, Decimal.exact]

/-- **DIGITS OF THE NUMBER**. -/
theorem shortest_renders {x : Binary64} (finite : x.isFinite = true) (nonzero : x.isZero = false)
    (tie : Decimal.Tie) : Renders (shortest tie x).digits ((shortest tie x).point - 1) x := by
  obtain ⟨some, other⟩ := Decimal.shortest_significand finite nonzero tie
  refine ⟨(Json.whole_digits _).1, Json.head_toDigits _ some, getLast?_toDigits other, ?_⟩
  rw [Int.sub_add_cancel, placeValue_digits]
  exact Decimal.shortest_rounds finite nonzero tie

/-- The text of a finite number other than zero is its shortest decimal, laid out. -/
theorem text_finite {x : Binary64} (finite : x.isFinite = true) (nonzero : x.isZero = false) :
    x.laidOut (shortest .up x).digits ((shortest .up x).point - 1) = some x.text.toList := by
  have some : (shortest .up x).digits ≠ [] := (Json.whole_digits _).1.1
  rw [laidOut_eq x some, Int.sub_add_cancel, text, isNaN_of_finite finite, nonzero, finite]
  simp only [Bool.false_eq_true, if_false, if_true, String.toList_ofList]
  rfl

/-! ## Reading -/

/-- The number that a text stands for, numerals being rounded to the nearest number. -/
def reading (s : String) : Option Binary64 :=
  if s = "Infinity" then some (withSign false infinityPattern)
  else if s = "-Infinity" then some (withSign true infinityPattern)
  else
    match Json.readNumeral .cutShort s.toList with
    | .ok (n, []) => some (round n.exact)
    | _ => none

/-- A numeral stands for the number next to its value, since it is neither word for infinity. -/
theorem reading_numeral {s : String} {n : Json.Numeral}
    (numeral : Json.readNumeral .cutShort s.toList = .ok (n, [])) :
    reading s = some (round n.exact) := by
  have finite : s ≠ "Infinity" := by
    rintro rfl
    exact nomatch numeral
  have finite' : s ≠ "-Infinity" := by
    rintro rfl
    exact nomatch numeral
  rw [reading, if_neg finite, if_neg finite', numeral]

/-- There are two infinite numbers, one of each sign. -/
theorem eq_of_infinite {x : Binary64} (number : x.isNaN = false) (infinite : x.isFinite = false) :
    x = withSign x.negative infinityPattern := by
  have exponent : x.exponent = 2047 := not_not.mp (of_decide_eq_false infinite)
  have fraction : x.fraction = 0 :=
    not_not.mp fun other => of_decide_eq_false number ⟨exponent, other⟩
  have pattern : x.pattern = infinityPattern := by
    rw [Binary64.pattern, exponent, fraction]
    rfl
  rw [← pattern, withSign_pattern]

theorem round_zero : round 0 = ⟨0⟩ := by decide +kernel

/-- All zeros are equal. -/
theorem same_zero {x : Binary64} (number : x.isNaN = false) (zero : x.isZero = true) :
    x.same ⟨0⟩ = true := by
  rw [same, number, zero]
  exact Bool.or_true _

/-- The words for the infinite numbers are read as these. -/
theorem reading_infinity (negative : Bool) :
    reading (if negative then "-Infinity" else "Infinity")
      = some (withSign negative infinityPattern) := by
  cases negative with
  | true => exact (if_neg (by decide)).trans (if_pos rfl)
  | false => exact if_pos rfl

theorem text_zero {x : Binary64} (number : x.isNaN = false) (zero : x.isZero = true) :
    x.text = "0" := by
  rw [text, number, zero]
  rfl

/-- An infinite number is a word with its sign. -/
theorem text_infinite {x : Binary64} (number : x.isNaN = false) (nonzero : x.isZero = false)
    (infinite : x.isFinite = false) :
    x.text = if x.negative then "-Infinity" else "Infinity" := by
  rw [text, number, nonzero, infinite]
  cases x.negative <;> rfl

/-- **KNOWN BY ITS TEXT**: the text of a number is read as a number equal to it. -/
theorem read_text {x : Binary64} (number : x.isNaN = false) :
    ∃ y, reading x.text = some y ∧ x.same y = true := by
  cases zero : x.isZero with
  -- Both zeros are read as the positive one, which equals them.
  | true =>
      have none : (Json.Numeral.mk false ['0'] none none).exact = 0 := zero_mul _
      refine ⟨round 0, ?_, ?_⟩
      · rw [text_zero number zero, ← none]
        exact reading_numeral rfl
      · rw [round_zero]
        exact same_zero number zero
  | false =>
      cases finite : x.isFinite with
      | true =>
          -- The shortest decimal is one of those that are read back.
          obtain ⟨cs, n, out, numeral, -, rounds⟩ := (shortest_renders finite zero .up).read finite
          obtain rfl := Option.some.inj (out.symm.trans (text_finite finite zero))
          exact ⟨x, (reading_numeral numeral).trans (congrArg some rounds), same_self number⟩
      | false =>
          refine ⟨x, ?_, same_self number⟩
          rw [text_infinite number zero finite, reading_infinity, ← eq_of_infinite number finite]

/-- Equal numbers have one text. -/
theorem text_eq_of_same {x y : Binary64} (same : x.same y = true) : x.text = y.text := by
  rw [Binary64.same] at same
  simp only [Bool.and_eq_true, Bool.or_eq_true, Bool.not_eq_true', beq_iff_eq] at same
  obtain ⟨⟨hx, hy⟩, rfl | ⟨zeroX, zeroY⟩⟩ := same
  · rfl
  · rw [text_zero hx zeroX, text_zero hy zeroY]

/-- **TEXTS DENOTE NUMBERS**. Take any digits and exponent that a finite number other than zero is
    rendered by: laying them out cuts no digits behind their end and yields a numeral, whose exact
    value is `d₁.d₂…dₖ × 10^e` with the sign of the number, and which rounds to the number. The
    text of such a number is laid out of digits like this. So two numbers have one text exactly if
    they are equal, be they zeros or infinities. -/
theorem text_denotes :
    (∀ (x : Binary64) (ds : List Char) (e : Int), x.isFinite = true → x.isZero = false →
      Renders ds e x →
      ∃ cs n, x.laidOut ds e = some cs ∧ Json.readNumeral .cutShort cs = .ok (n, [])
        ∧ n.exact = signed x.negative (placeValue ds (e + 1)) ∧ round n.exact = x)
    ∧ (∀ x : Binary64, x.isFinite = true → x.isZero = false →
      Renders (shortest .up x).digits ((shortest .up x).point - 1) x
        ∧ x.laidOut (shortest .up x).digits ((shortest .up x).point - 1) = some x.text.toList)
    ∧ ∀ x y : Binary64, x.isNaN = false → y.isNaN = false →
      (x.text = y.text ↔ x.same y = true) := by
  refine ⟨?_, ?_, ?_⟩
  · intro x ds e finite _ renders
    exact renders.read finite
  · intro x finite nonzero
    exact ⟨shortest_renders finite nonzero .up, text_finite finite nonzero⟩
  · intro x y hx hy
    refine ⟨fun one => ?_, text_eq_of_same⟩
    -- One text is read as one number, which equals both.
    obtain ⟨u, readX, sameX⟩ := read_text hx
    obtain ⟨v, readY, sameY⟩ := read_text hy
    rw [one] at readX
    obtain rfl := Option.some.inj (readX.symm.trans readY)
    rw [same_comm] at sameY
    exact same_trans sameX sameY

/-- Minus one and a half is rendered by `1.5e0`. -/
theorem minus_three_halves_denoted :
    Renders ['1', '5'] 0 ⟨0xbff8000000000000⟩ ∧
    ∃ n, (⟨0xbff8000000000000⟩ : Binary64).laidOut ['1', '5'] 0 = some ['-', '1', '.', '5']
      ∧ Json.readNumeral .cutShort ['-', '1', '.', '5'] = .ok (n, [])
      ∧ n.exact = -3 / 2 ∧ round n.exact = ⟨0xbff8000000000000⟩ := by
  have value : placeValue ['1', '5'] (0 + 1) = 3 / 2 := by
    rw [placeValue, show Nat.ofDigitChars 10 ['1', '5'] 0 = 15 from rfl]
    norm_num
  have digits : Json.Digits ['1', '5'] :=
    ⟨List.cons_ne_nil _ _, List.forall_mem_cons.mpr ⟨rfl, List.forall_mem_singleton.mpr rfl⟩⟩
  have renders : Renders ['1', '5'] 0 ⟨0xbff8000000000000⟩ := by
    refine ⟨digits, by decide, by decide, ?_⟩
    rw [value]
    decide +kernel
  obtain ⟨laid, -, -⟩ := text_denotes
  obtain ⟨cs, n, out, numeral, exact, rounds⟩ :=
    laid ⟨0xbff8000000000000⟩ ['1', '5'] 0 (by decide) (by decide) renders
  have shape : (⟨0xbff8000000000000⟩ : Binary64).laidOut ['1', '5'] 0
      = some ['-', '1', '.', '5'] := by decide
  obtain rfl := Option.some.inj (shape.symm.trans out)
  refine ⟨renders, n, shape, numeral, ?_, rounds⟩
  rw [exact, value, show (⟨0xbff8000000000000⟩ : Binary64).negative = true from by decide, signed]
  norm_num

end Vdom.Binary64
