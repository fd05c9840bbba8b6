import Mathlib.Data.Nat.Dist
import Mathlib.Data.Nat.Log
import Mathlib.Tactic.Ring
import Mathlib.Tactic.Linarith
import Vdom.Binary64
/-!
# Rounding — the number next to a ratio

The value of a finite number is a whole multiple of `2^-1074`, so how far a number is from a ratio
is a distance between natural numbers once both are scaled by the denominator.

* **`roundHalfEven_nearest`** — the whole number next to a quotient, an even one on a tie.
* **`magnitude_withSign`** — what a pattern stands for, also where rounding has carried into the
  exponent.
* **`nearest_nearest`** — no number is nearer to the ratio: one on a grid no finer than that of the
  result is a multiple of its step, and one on a finer grid lies below all multiples in question.
* **`ofInt_nearest`**, **`units_ofInt`** — the same for whole numbers with their signs, and that
  those of up to 53 places are left as they are.
-/

namespace Vdom.Binary64

/-! ## Rounding to a whole number -/

/-- A multiple of `den` other than the two around `num` is a whole step further away. -/
theorem multiple_apart (num den k : Nat) :
    k = num / den ∨ k = num / den + 1
      ∨ k * den + den ≤ num / den * den ∨ num / den * den + 2 * den ≤ k * den := by
  rcases Nat.lt_trichotomy k (num / den) with below | rfl | above
  · refine .inr (.inr (.inl ?_))
    have h := Nat.mul_le_mul_right den (Nat.succ_le_of_lt below)
    rwa [Nat.succ_mul] at h
  · exact .inl rfl
  · rcases Nat.eq_or_lt_of_le (Nat.succ_le_of_lt above) with next | beyond
    · exact .inr (.inl next.symm)
    · refine .inr (.inr (.inr ?_))
      have h := Nat.mul_le_mul_right den (Nat.succ_le_of_lt beyond)
      rwa [Nat.succ_mul, Nat.succ_mul, Nat.add_assoc, ← Nat.two_mul] at h

/-- Rounding yields the next whole number, and an even one if there are two. -/
theorem roundHalfEven_nearest (num : Nat) {den : Nat} (hd : 0 < den) (k : Nat) :
    Nat.dist (roundHalfEven num den * den) num ≤ Nat.dist (k * den) num
    ∧ (Nat.dist (roundHalfEven num den * den) num = Nat.dist (k * den) num →
      k ≠ roundHalfEven num den → roundHalfEven num den % 2 = 0) := by
  have split : num / den * den + num % den = num := Nat.div_add_mod' num den
  have rest : num % den < den := Nat.mod_lt num hd
  have next : (num / den + 1) * den = num / den * den + den := Nat.succ_mul _ _
  have apart := multiple_apart num den k
  simp only [roundHalfEven, Nat.dist]
  split_ifs with low high
  · rcases apart with rfl | rfl | below | above
    all_goals omega
  · rcases apart with rfl | rfl | below | above
    all_goals omega
  · rcases Nat.mod_two_eq_zero_or_one (num / den) with even | odd
    · rw [even, Nat.add_zero]
      rcases apart with rfl | rfl | below | above
      all_goals omega
    · rw [odd]
      rcases apart with rfl | rfl | below | above
      all_goals omega

/-- Rounding goes neither below the whole number below nor beyond the one above it. -/
theorem floor_le_roundHalfEven (num den : Nat) : num / den ≤ roundHalfEven num den := by
  simp only [roundHalfEven]
  split_ifs <;> omega

theorem roundHalfEven_le_floor (num den : Nat) : roundHalfEven num den ≤ num / den + 1 := by
  simp only [roundHalfEven]
  split_ifs <;> omega

/-- A whole number is left as it is. -/
theorem roundHalfEven_whole {den : Nat} (hd : 0 < den) (k : Nat) :
    roundHalfEven (k * den) den = k := by
  simp only [roundHalfEven, Nat.mul_mod_left, Nat.mul_div_cancel k hd]
  rw [if_pos (by omega)]

/-! ## Patterns -/

theorem pow_52 : Nat.pow 2 52 = 4503599627370496 := rfl

theorem pow_63 : Nat.pow 2 63 = 9223372036854775808 := rfl

theorem pow_11 : Nat.pow 2 11 = 2048 := rfl

theorem infinityPattern_eq : infinityPattern = 2047 * 4503599627370496 := rfl

/-- The bits of a pattern with a sign; no pattern reaches the sign bit. -/
theorem toNat_withSign (negative : Bool) {pattern : Nat} (h : pattern ≤ infinityPattern) :
    (withSign negative pattern).bits.toNat
      = pattern + if negative then 9223372036854775808 else 0 := by
  rw [infinityPattern_eq] at h
  rw [withSign, UInt64.toNat_ofNat', pow_63]
  apply Nat.mod_eq_of_lt
  split <;> omega

/-- A pattern is split into exponent and fraction whatever its sign. -/
theorem exponent_withSign (negative : Bool) {pattern : Nat} (h : pattern ≤ infinityPattern) :
    (withSign negative pattern).exponent = pattern / 4503599627370496 := by
  rw [exponent, toNat_withSign negative h, pow_52, pow_11]
  rw [infinityPattern_eq] at h
  split <;> omega

theorem fraction_withSign (negative : Bool) {pattern : Nat} (h : pattern ≤ infinityPattern) :
    (withSign negative pattern).fraction = pattern % 4503599627370496 := by
  rw [fraction, toNat_withSign negative h, pow_52]
  split <;> omega

theorem negative_withSign (negative : Bool) {pattern : Nat} (h : pattern ≤ infinityPattern) :
    (withSign negative pattern).negative = negative := by
  rw [Binary64.negative, toNat_withSign negative h, pow_63]
  rw [infinityPattern_eq] at h
  cases negative
  · simp; omega
  · simp

/-- Rounding never yields a pattern that is not a number. -/
theorem isNaN_nearest (negative : Bool) (num den : Nat) :
    (nearest negative num den).isNaN = false := by
  have h : nearestPattern num den ≤ infinityPattern := Nat.min_le_right _ _
  rw [isNaN, nearest, exponent_withSign negative h, fraction_withSign negative h]
  rw [infinityPattern_eq] at h
  simp only [decide_eq_false_iff_not, not_and, ne_eq, not_not]
  omega

/-- Every finite number is a multiple of its step, of less than `2^53` steps. -/
theorem significand_lt (x : Binary64) : x.significand < 9007199254740992 := by
  have h : x.fraction < 4503599627370496 := Nat.mod_lt _ (by decide)
  rw [significand, pow_52]
  split <;> omega

/-- A pattern below infinity stands for its significand at its place, also where the significand
    has carried into the exponent. -/
theorem magnitude_withSign (negative : Bool) {shift significand : Nat}
    (fits : shift * 4503599627370496 + significand < infinityPattern)
    (bound : significand ≤ 9007199254740992)
    (normal : shift = 0 ∨ 4503599627370496 ≤ significand) :
    (withSign negative (shift * 4503599627370496 + significand)).magnitude
        = significand * 2 ^ shift
      ∧ (withSign negative (shift * 4503599627370496 + significand)).fraction % 2
        = significand % 2
      ∧ (withSign negative (shift * 4503599627370496 + significand)).isFinite = true := by
  have h := Nat.le_of_lt fits
  rw [infinityPattern_eq] at fits
  rw [magnitude, Binary64.significand, Binary64.shift, isFinite, exponent_withSign negative h,
    fraction_withSign negative h, pow_52, Nat.pow_eq]
  refine ⟨?_, by omega, by simp; omega⟩
  rcases Nat.lt_or_ge significand 4503599627370496 with low | high
  · -- A significand without its hidden bit stands at the lowest place.
    obtain rfl : shift = 0 := by omega
    have exponent : (0 * 4503599627370496 + significand) / 4503599627370496 = 0 := by omega
    have fraction : (0 * 4503599627370496 + significand) % 4503599627370496 = significand := by
      omega
    rw [exponent, fraction, if_pos rfl]
  rcases Nat.lt_or_ge significand 9007199254740992 with inside | carried
  · have exponent : (shift * 4503599627370496 + significand) / 4503599627370496 = shift + 1 := by
      omega
    have fraction : (shift * 4503599627370496 + significand) % 4503599627370496
        = significand - 4503599627370496 := by omega
    rw [exponent, fraction, if_neg (Nat.succ_ne_zero shift), Nat.add_sub_cancel,
      Nat.add_sub_cancel' high]
  · obtain rfl : significand = 9007199254740992 := by omega
    have exponent : (shift * 4503599627370496 + 9007199254740992) / 4503599627370496
        = shift + 2 := by omega
    have fraction : (shift * 4503599627370496 + 9007199254740992) % 4503599627370496 = 0 := by
      omega
    rw [exponent, fraction, if_neg (Nat.succ_ne_zero _), show shift + 2 - 1 = shift + 1 from rfl,
      Nat.pow_succ]
    omega

/-! ## The number next to a ratio -/

/-- One, in units of `2^-1074`. -/
def unit : Nat := Nat.pow 2 1074

/-- The exponent is generalised, since the unit is too large to be written out. -/
theorem unit_eq : ∃ places, places = 1074 ∧ unit = 2 ^ places := by
  unfold unit
  generalize 1074 = places
  exact ⟨places, rfl, rfl⟩

theorem unit_pos : 0 < unit := by
  obtain ⟨places, -, h⟩ := unit_eq
  rw [h]
  exact Nat.two_pow_pos places

/-- How many binary places above the smallest subnormal rounding cuts off. -/
def cut (num den : Nat) : Nat := (num * unit / den).log2 - 52

/-- The significand that rounding keeps. -/
def kept (num den : Nat) : Nat :=
  roundHalfEven (num * unit) (den * Nat.pow 2 (cut num den))

/-- The pattern next to a ratio: the places cut off, the significand kept, and infinity at most. -/
theorem nearestPattern_eq (num den : Nat) :
    nearestPattern num den
      = min (cut num den * 4503599627370496 + kept num den) infinityPattern := by
  unfold nearestPattern kept cut unit
  generalize 1074 = places
  rfl

/-- Rounding keeps 53 places, or fewer if it cuts none off. -/
theorem floor_bounds (num den : Nat) :
    num * unit / (den * Nat.pow 2 (cut num den)) < 9007199254740992
      ∧ (cut num den = 0
        ∨ 4503599627370496 ≤ num * unit / (den * Nat.pow 2 (cut num den))) := by
  rw [← Nat.div_div_eq_div_mul, cut]
  -- Only the number of units matters from here on, and it has as many binary places as its
  -- logarithm says.
  generalize num * unit / den = units
  simp only [Nat.pow_eq]
  constructor
  · have below : units / 2 ^ (units.log2 - 52) < 2 ^ 53 := by
      rw [Nat.div_lt_iff_lt_mul (by positivity), ← Nat.pow_add]
      exact lt_of_lt_of_le Nat.lt_log2_self (Nat.pow_le_pow_right (by decide) (by omega))
    exact below
  · rcases Nat.eq_zero_or_pos (units.log2 - 52) with none | some
    · exact .inl none
    · right
      have above : 2 ^ 52 ≤ units / 2 ^ (units.log2 - 52) := by
        rw [Nat.le_div_iff_mul_le (by positivity), ← Nat.pow_add,
          show 52 + (units.log2 - 52) = units.log2 by omega]
        refine Nat.log2_self_le ?_
        rintro rfl
        exact absurd some (by simp)
      exact above

/-- What is kept has 53 places, or one unit more by rounding up; it has fewer only if none is cut
    off. -/
theorem kept_bounds (num den : Nat) :
    kept num den ≤ 9007199254740992
      ∧ (cut num den = 0 ∨ 4503599627370496 ≤ kept num den) := by
  obtain ⟨below, above⟩ := floor_bounds num den
  have low := floor_le_roundHalfEven (num * unit) (den * Nat.pow 2 (cut num den))
  have high := roundHalfEven_le_floor (num * unit) (den * Nat.pow 2 (cut num den))
  rw [kept]
  omega

/-- What is rounded to when there is no overflow. -/
theorem nearest_kept {num den : Nat} (negative : Bool)
    (fits : nearestPattern num den < infinityPattern) :
    (nearest negative num den).magnitude = kept num den * 2 ^ cut num den
      ∧ (nearest negative num den).fraction % 2 = kept num den % 2
      ∧ (nearest negative num den).isFinite = true := by
  obtain ⟨bound, normal⟩ := kept_bounds num den
  have pattern : nearestPattern num den
      = cut num den * 4503599627370496 + kept num den := by
    rw [nearestPattern_eq] at fits ⊢
    omega
  rw [nearest, pattern]
  rw [pattern] at fits
  exact magnitude_withSign negative fits bound normal

/-- How far the absolute value of a number is from a ratio, in units of `2^-1074 / den`. -/
def distance (x : Binary64) (num den : Nat) : Nat :=
  Nat.dist (x.magnitude * den) (num * unit)

/-- **NEAREST, TIES TO EVEN**: no number is nearer to the ratio than the one it is rounded to,
    and if another is as near then the one it is rounded to is even. -/
theorem nearest_nearest {num den : Nat} (hd : 0 < den) (negative : Bool)
    (fits : nearestPattern num den < infinityPattern) (y : Binary64) :
    (nearest negative num den).distance num den ≤ y.distance num den
      ∧ ((nearest negative num den).distance num den = y.distance num den →
        y.magnitude ≠ (nearest negative num den).magnitude →
        (nearest negative num den).fraction % 2 = 0) := by
  obtain ⟨magnitude, parity, -⟩ := nearest_kept negative fits
  have step : 0 < den * Nat.pow 2 (cut num den) := Nat.mul_pos hd (Nat.two_pow_pos _)
  have here : (nearest negative num den).magnitude * den
      = kept num den * (den * Nat.pow 2 (cut num den)) := by
    rw [magnitude, Nat.pow_eq]
    ring
  rw [distance, distance, here]
  rcases Nat.lt_or_ge y.shift (cut num den) with finer | coarser
  · -- A number on a finer grid lies below all that rounding can yield.
    have half : 2 ^ y.shift * 2 ≤ 2 ^ cut num den := by
      rw [← Nat.pow_succ]
      exact Nat.pow_le_pow_right (by decide) finer
    have far : y.magnitude * den < 4503599627370496 * (den * Nat.pow 2 (cut num den)) := by
      rw [Binary64.magnitude, Nat.pow_eq, Nat.pow_eq, Nat.mul_comm den, ← Nat.mul_assoc]
      refine Nat.mul_lt_mul_of_pos_right ?_ hd
      calc y.significand * 2 ^ y.shift
          < 9007199254740992 * 2 ^ y.shift :=
            Nat.mul_lt_mul_of_pos_right y.significand_lt (Nat.two_pow_pos _)
        _ = 4503599627370496 * (2 ^ y.shift * 2) := by ring
        _ ≤ 4503599627370496 * 2 ^ cut num den := Nat.mul_le_mul_left _ half
    have floor : 4503599627370496 * (den * Nat.pow 2 (cut num den)) ≤ num * unit :=
      (Nat.le_div_iff_mul_le step).mp ((floor_bounds num den).2.resolve_left (by omega))
    have best := (roundHalfEven_nearest (num * unit) step 4503599627370496).1
    rw [← kept] at best
    simp only [Nat.dist] at *
    omega
  · -- A number on the same grid or a coarser one is a multiple of the step.
    have multiple : y.magnitude * den
        = y.significand * 2 ^ (y.shift - cut num den) * (den * Nat.pow 2 (cut num den)) := by
      have places : 2 ^ y.shift = 2 ^ (y.shift - cut num den) * 2 ^ cut num den := by
        rw [← Nat.pow_add, Nat.sub_add_cancel coarser]
      rw [Binary64.magnitude, Nat.pow_eq, Nat.pow_eq, places]
      ring
    obtain ⟨best, even⟩ := roundHalfEven_nearest (num * unit) step
      (y.significand * 2 ^ (y.shift - cut num den))
    rw [← kept] at best even
    rw [multiple, parity]
    refine ⟨best, fun tie other => even tie ?_⟩
    rintro same
    refine other (Nat.eq_of_mul_eq_mul_right hd ?_)
    rw [multiple, here, same]

/-! ## Whole numbers -/

/-- The value of a finite number, in units of `2^-1074`. -/
def units (x : Binary64) : Int := if x.negative then -x.magnitude else x.magnitude

/-- A number is at least as far from a value as the absolute values are from each other, and as
    far if it has the sign of the value. -/
theorem dist_le_natAbs_units_sub (x : Binary64) (t : Int) :
    Nat.dist x.magnitude t.natAbs ≤ (x.units - t).natAbs
      ∧ (x.negative = decide (t < 0) → Nat.dist x.magnitude t.natAbs = (x.units - t).natAbs) := by
  rw [units, Nat.dist]
  -- Signs apart can only add to the distance.
  cases x.negative with
  | false =>
      constructor
      · simp only [Bool.false_eq_true, if_false]
        omega
      · intro sign
        have : ¬ t < 0 := of_decide_eq_false sign.symm
        simp only [Bool.false_eq_true, if_false]
        omega
  | true =>
      constructor
      · simp only [if_true]
        omega
      · intro sign
        have : t < 0 := of_decide_eq_true sign.symm
        simp only [if_true]
        omega

theorem natAbs_units (x : Binary64) : x.units.natAbs = x.magnitude := by
  rw [units]
  split <;> omega

/-- The fewer places a whole number has, the fewer rounding cuts off. -/
theorem cut_le {m k : Nat} (h : m < 2 ^ (k + 1)) : cut m 1 ≤ k + 1022 := by
  rw [cut, Nat.div_one]
  rcases Nat.eq_zero_or_pos (m * unit) with zero | positive
  · rw [zero]
    exact Nat.zero_le _
  · obtain ⟨places, hplaces, hunit⟩ := unit_eq
    have below : m * unit < 2 ^ (k + 1 + places) := by
      rw [Nat.pow_add, ← hunit]
      exact Nat.mul_lt_mul_of_pos_right h unit_pos
    have := (Nat.log2_lt (Nat.ne_of_gt positive)).mpr below
    omega

/-- No whole number of 64 bits is rounded to infinity. -/
theorem nearestPattern_fits {m : Nat} (h : m ≤ 9223372036854775808) :
    nearestPattern m 1 < infinityPattern := by
  have small : cut m 1 ≤ 63 + 1022 := cut_le (by omega)
  have bound := (kept_bounds m 1).1
  rw [nearestPattern_eq, infinityPattern_eq]
  omega

/-- Rounding keeps the sign of a whole number. -/
theorem negative_ofInt (i : Int) : (ofInt i).negative = decide (i < 0) :=
  negative_withSign _ (Nat.min_le_right _ _)

/-- Counting in units keeps the sign. -/
theorem mul_unit_neg (i : Int) : i * unit < 0 ↔ i < 0 := by
  have positive : (0 : Int) < unit := Int.natCast_pos.mpr unit_pos
  constructor
  · intro h
    exact neg_of_mul_neg_left h (Int.le_of_lt positive)
  · intro h
    exact Int.mul_neg_of_neg_of_pos h positive

/-- Of two opposite numbers only zero can be as near to a value as the other. -/
theorem eq_of_opposite {a b t : Int} (same : a.natAbs = b.natAbs)
    (tie : (b - t).natAbs = (a - t).natAbs) (zero : (b - t).natAbs ≤ t.natAbs) : a = b := by
  rcases Int.natAbs_eq_natAbs_iff.mp same with equal | opposite
  · exact equal
  · rcases Int.natAbs_eq_natAbs_iff.mp tie with left | right
    · omega
    · omega

/-- **WHOLE NUMBERS TO THE NEAREST, TIES TO EVEN**. -/
theorem ofInt_nearest {i : Int} (h : i.natAbs ≤ 9223372036854775808) (y : Binary64) :
    ((ofInt i).units - i * unit).natAbs ≤ (y.units - i * unit).natAbs
      ∧ (((ofInt i).units - i * unit).natAbs = (y.units - i * unit).natAbs →
        y.units ≠ (ofInt i).units → (ofInt i).fraction % 2 = 0) := by
  have fits := nearestPattern_fits h
  -- Zero bounds the error, so that a number of the other sign is never nearer.
  obtain ⟨zero, -⟩ := nearest_nearest Nat.one_pos (i < 0) fits ⟨0⟩
  obtain ⟨best, even⟩ := nearest_nearest Nat.one_pos (i < 0) fits y
  have zeroMagnitude : (⟨0⟩ : Binary64).magnitude = 0 := by decide
  have scaled : (i * unit).natAbs = i.natAbs * unit := by rw [Int.natAbs_mul, Int.natAbs_natCast]
  rw [← ofInt] at best even zero
  simp only [distance, Nat.mul_one, zeroMagnitude, ← scaled, Nat.dist_zero_left] at best even zero
  have here := (dist_le_natAbs_units_sub (ofInt i) (i * unit)).2
    (by simp only [negative_ofInt, mul_unit_neg])
  have there := (dist_le_natAbs_units_sub y (i * unit)).1
  rw [here] at best even zero
  refine ⟨Nat.le_trans best there, ?_⟩
  intro tie other
  refine even (Nat.le_antisymm best (tie ▸ there)) ?_
  intro same
  rw [← natAbs_units, ← natAbs_units] at same
  exact other (eq_of_opposite same tie zero)

/-- Whole numbers of up to 53 places are not rounded. -/
theorem units_ofInt {i : Int} (h : i.natAbs ≤ 9007199254740992) :
    (ofInt i).units = i * unit := by
  have whole : ∃ k, i.natAbs * unit = k * Nat.pow 2 (cut i.natAbs 1) := by
    obtain ⟨places, hplaces, hunit⟩ := unit_eq
    -- The bound itself has one place more than the numbers below it, but is a power of two.
    rcases Nat.eq_or_lt_of_le h with top | below
    · have far : cut i.natAbs 1 ≤ 53 + 1022 := cut_le (by omega)
      refine ⟨4503599627370496 * 2 ^ (places + 1 - cut i.natAbs 1), ?_⟩
      have split : 2 ^ (places + 1) = 2 ^ (places + 1 - cut i.natAbs 1) * 2 ^ cut i.natAbs 1 := by
        rw [← Nat.pow_add, Nat.sub_add_cancel (by omega)]
      rw [Nat.pow_eq, Nat.mul_assoc, ← split, hunit, top, Nat.pow_succ]
      ring
    · have near : cut i.natAbs 1 ≤ 52 + 1022 := cut_le (by omega)
      refine ⟨i.natAbs * 2 ^ (places - cut i.natAbs 1), ?_⟩
      rw [Nat.pow_eq, Nat.mul_assoc, ← Nat.pow_add, Nat.sub_add_cancel (by omega), hunit]
  obtain ⟨k, hk⟩ := whole
  have exact : (ofInt i).magnitude = i.natAbs * unit := by
    have fits := nearestPattern_fits (m := i.natAbs) (by omega)
    have step : 0 < Nat.pow 2 (cut i.natAbs 1) := Nat.two_pow_pos _
    rw [ofInt, (nearest_kept _ fits).1, kept, Nat.one_mul, hk, roundHalfEven_whole step, Nat.pow_eq]
  rw [units, negative_ofInt, exact]
  by_cases negative : i < 0
  · simp only [negative, decide_true, if_true]
    push_cast
    rw [abs_of_neg negative]
    ring
  · simp only [negative, decide_false, Bool.false_eq_true, if_false]
    push_cast
    rw [abs_of_nonneg (by omega)]

/-! ## Equal numbers -/

theorem isNaN_of_finite {x : Binary64} (finite : x.isFinite = true) : x.isNaN = false :=
  decide_eq_false fun nan => of_decide_eq_true finite nan.1

/-- Only not-a-number differs from itself. -/
theorem same_self_eq (x : Binary64) : x.same x = !x.isNaN := by
  rw [same, beq_self_eq_true, Bool.true_or, Bool.and_true, Bool.and_self]

theorem same_self {x : Binary64} (number : x.isNaN = false) : x.same x = true := by
  rw [same_self_eq, number]
  rfl

/-- Equality of numbers has no direction. -/
theorem same_comm (x y : Binary64) : x.same y = y.same x := by
  rw [same, same, Bool.and_comm (!x.isNaN), Bool.and_comm x.isZero, Bool.beq_comm]

/-- Numbers that equal the same number are equal, be they zeros of either sign or not. -/
theorem same_trans {x y z : Binary64} (xy : x.same y = true) (yz : y.same z = true) :
    x.same z = true := by
  simp only [same, Bool.and_eq_true, Bool.or_eq_true, beq_iff_eq] at xy yz ⊢
  obtain ⟨⟨hx, -⟩, rfl | ⟨zeroX, zeroY⟩⟩ := xy
  · exact yz
  · obtain ⟨⟨-, hz⟩, rfl | ⟨-, zeroZ⟩⟩ := yz
    · exact ⟨⟨hx, hz⟩, .inr ⟨zeroX, zeroY⟩⟩
    · exact ⟨⟨hx, hz⟩, .inr ⟨zeroX, zeroZ⟩⟩

/-- Numbers that are equal have the same value. -/
theorem units_eq_of_same {x y : Binary64} (h : x.same y = true) : x.units = y.units := by
  have zero : ∀ z : Binary64, z.isZero = true → z.units = 0 := by
    intro z hz
    obtain ⟨exponent, fraction⟩ := of_decide_eq_true hz
    rw [units, magnitude, significand, if_pos exponent, fraction]
    simp
  simp only [same, Bool.and_eq_true, Bool.or_eq_true, beq_iff_eq] at h
  obtain ⟨-, rfl | ⟨hx, hy⟩⟩ := h
  · rfl
  · rw [zero x hx, zero y hy]

end Vdom.Binary64
