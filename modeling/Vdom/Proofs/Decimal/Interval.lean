import Mathlib.Data.Rat.Cast.Order
import Mathlib.Tactic.FieldSimp
import Mathlib.Algebra.Order.Field.Rat
import Vdom.Decimal.Shortest
import Vdom.Proofs.Rounding
/-!
# Rounding intervals — which ratios are rounded to a number

`Interval.of` describes what is rounded to a number by the ends of an interval. Here it is shown to
be right: rounding takes every ratio in the interval of a number to that number.

* **`roundHalfEven_eq`** — what is half a step or less from a multiple is rounded to it, an odd one
  taking no halves.
* **`nearestPattern_of_interval`** — where the steps below a number are half as wide as those above,
  rounding cuts off one place less and carries into the exponent.
* **`round_of_within`** — the same for rational values with their signs.
-/

namespace Vdom.Binary64

/-! ## Patterns -/

/-- The bits of a number behind the sign. -/
def pattern (x : Binary64) : Nat := x.exponent * 4503599627370496 + x.fraction

theorem pattern_lt {x : Binary64} (finite : x.isFinite = true) : x.pattern < infinityPattern := by
  have exponent : x.exponent < 2048 := Nat.mod_lt _ (by decide)
  have fraction : x.fraction < 4503599627370496 := Nat.mod_lt _ (by decide)
  have other : x.exponent ≠ 2047 := of_decide_eq_true finite
  rw [pattern, infinityPattern_eq]
  omega

theorem withSign_pattern (x : Binary64) : withSign x.negative x.pattern = x := by
  have bound : x.bits.toNat < 18446744073709551616 := x.bits.toNat_lt
  refine congrArg Binary64.mk (UInt64.toNat_inj.mp ?_)
  rw [UInt64.toNat_ofNat', pattern, exponent, fraction, negative, pow_52, pow_63, pow_11]
  by_cases sign : 9223372036854775808 ≤ x.bits.toNat
  · rw [decide_eq_true sign, if_pos rfl]
    omega
  · rw [decide_eq_false sign, if_neg Bool.false_ne_true]
    omega

/-- Patterns with a sign are different if they are different without. -/
theorem withSign_inj {negative : Bool} {p q : Nat} (hp : p ≤ infinityPattern)
    (hq : q ≤ infinityPattern) (same : withSign negative p = withSign negative q) : p = q := by
  have bits := congrArg (fun x => x.bits.toNat) same
  simp only [toNat_withSign negative hp, toNat_withSign negative hq] at bits
  exact Nat.add_right_cancel bits

/-! ## Rounding to a whole number -/

/-- A whole number at most half away is rounded to, and if it is half away, it has to be even. -/
theorem roundHalfEven_eq {num den k : Nat} (hd : 0 < den) (low : 2 * (k * den) ≤ 2 * num + den)
    (high : 2 * num ≤ 2 * (k * den) + den)
    (tie : k % 2 = 0 ∨ 2 * (k * den) < 2 * num + den ∧ 2 * num < 2 * (k * den) + den) :
    roundHalfEven num den = k := by
  have split : num / den * den + num % den = num := Nat.div_add_mod' num den
  have rest : num % den < den := Nat.mod_lt num hd
  have next : (num / den + 1) * den = num / den * den + den := Nat.succ_mul _ _
  simp only [roundHalfEven]
  rcases multiple_apart num den k with rfl | rfl | below | above
  · split_ifs <;> omega
  · split_ifs <;> omega
  · omega
  · omega

/-! ## Places cut off -/

/-- As many places are cut off as leave 53, if there are so many. -/
theorem cut_eq {num den shift : Nat} (hd : 0 < den)
    (low : shift = 0 ∨ 4503599627370496 * (den * 2 ^ shift) ≤ num * unit)
    (high : num * unit < 9007199254740992 * (den * 2 ^ shift)) : cut num den = shift := by
  rw [cut]
  have below : num * unit / den < 2 ^ (53 + shift) := by
    rw [Nat.div_lt_iff_lt_mul hd, Nat.pow_add, Nat.mul_assoc, Nat.mul_comm _ den]
    exact high
  have above : shift = 0 ∨ 2 ^ (52 + shift) ≤ num * unit / den := by
    refine low.imp_right fun low => ?_
    rw [Nat.le_div_iff_mul_le hd, Nat.pow_add, Nat.mul_assoc, Nat.mul_comm _ den]
    exact low
  -- Between these powers of two the logarithm has one value.
  generalize num * unit / den = units at below above
  rcases Nat.eq_zero_or_pos units with rfl | positive
  · rcases above with rfl | above
    · rfl
    · exact absurd above (Nat.not_le.mpr (Nat.two_pow_pos _))
  · have upper := (Nat.log2_lt (Nat.ne_of_gt positive)).mpr below
    rcases above with rfl | above
    · omega
    · have lower := (Nat.le_log2 (Nat.ne_of_gt positive)).mpr above
      omega

/-- The pattern next to a ratio, by a place for its units and the multiple it is next to there. -/
theorem nearestPattern_at {num den shift k : Nat} (hd : 0 < den)
    (place : shift = 0 ∨ 4503599627370496 * (den * 2 ^ shift) ≤ num * unit)
    (below : num * unit < 9007199254740992 * (den * 2 ^ shift))
    (low : 2 * (k * (den * 2 ^ shift)) ≤ 2 * (num * unit) + den * 2 ^ shift)
    (high : 2 * (num * unit) ≤ 2 * (k * (den * 2 ^ shift)) + den * 2 ^ shift)
    (tie : k % 2 = 0 ∨ 2 * (k * (den * 2 ^ shift)) < 2 * (num * unit) + den * 2 ^ shift
      ∧ 2 * (num * unit) < 2 * (k * (den * 2 ^ shift)) + den * 2 ^ shift) :
    nearestPattern num den = min (shift * 4503599627370496 + k) infinityPattern := by
  have step : 0 < den * 2 ^ shift := Nat.mul_pos hd (Nat.two_pow_pos shift)
  rw [nearestPattern_eq, kept, cut_eq hd place below, Nat.pow_eq,
    roundHalfEven_eq step low high tie]

/-! ## Intervals -/

/-- The pattern of a number counts the significand on top of the place, also where it is subnormal.
    -/
theorem pattern_eq (x : Binary64) : x.pattern = x.shift * 4503599627370496 + x.significand := by
  rw [pattern, shift, significand, pow_52]
  split <;> omega

/-- A significand is even exactly if the fraction is. -/
theorem significand_even (x : Binary64) : x.significand % 2 = x.fraction % 2 := by
  rw [significand, pow_52]
  split <;> omega

/-- Whether the steps below a number are half as wide as those above. -/
def Narrow (x : Binary64) : Prop := x.fraction = 0 ∧ 1 < x.exponent

instance (x : Binary64) : Decidable x.Narrow :=
  inferInstanceAs (Decidable (x.fraction = 0 ∧ 1 < x.exponent))

/-- How far the interval of a number reaches down, in quarters of a step. -/
def reach (x : Binary64) : Nat := if x.Narrow then 1 else 2

/-- How far down the interval of a number reaches, over any denominator. -/
theorem low_scaled (x : Binary64) (den : Nat) : (Decimal.Interval.of x).low * den
    = 4 * (x.significand * (den * 2 ^ x.shift)) - x.reach * (den * 2 ^ x.shift) := by
  show (4 * x.magnitude - x.reach * 2 ^ x.shift) * den = _
  rw [magnitude, Nat.pow_eq, Nat.sub_mul]
  congr 1 <;> ring

/-- How far up it reaches: half a step in any case. -/
theorem high_scaled (x : Binary64) (den : Nat) : (Decimal.Interval.of x).high * den
    = 4 * (x.significand * (den * 2 ^ x.shift)) + 2 * (den * 2 ^ x.shift) := by
  show (4 * x.magnitude + 2 * 2 ^ x.shift) * den = _
  rw [magnitude, Nat.pow_eq]
  ring

/-- Where all the steps around a number are as wide, rounding cuts off as many places as its
    significand is shifted. -/
theorem nearestPattern_of_wide {x : Binary64} (wide : ¬ x.Narrow) {num den : Nat} (hd : 0 < den)
    (low : 2 * (x.significand * (den * 2 ^ x.shift)) ≤ 2 * (num * unit) + den * 2 ^ x.shift)
    (high : 2 * (num * unit) ≤ 2 * (x.significand * (den * 2 ^ x.shift)) + den * 2 ^ x.shift)
    (tie : x.significand % 2 = 0
      ∨ 2 * (x.significand * (den * 2 ^ x.shift)) < 2 * (num * unit) + den * 2 ^ x.shift
        ∧ 2 * (num * unit) < 2 * (x.significand * (den * 2 ^ x.shift)) + den * 2 ^ x.shift) :
    nearestPattern num den = min x.pattern infinityPattern := by
  have step : 0 < den * 2 ^ x.shift := Nat.mul_pos hd (Nat.two_pow_pos _)
  rw [pattern_eq]
  refine nearestPattern_at hd ?_ ?_ low high tie
  · rcases Nat.eq_zero_or_pos x.shift with none | some
    · exact .inl none
    -- The smallest significand has finer steps below it, and those are ruled out here.
    · have normal : 4503599627370497 ≤ x.significand := by
        rw [shift] at some
        have above : x.fraction ≠ 0 := fun zero => wide ⟨zero, Nat.lt_of_sub_pos some⟩
        rw [significand, if_neg (by omega), pow_52]
        omega
      have bound := Nat.mul_le_mul_right (den * 2 ^ x.shift) normal
      exact .inr (by omega)
  · have bound := Nat.mul_le_mul_right (den * 2 ^ x.shift) (Nat.le_of_lt_succ x.significand_lt)
    omega

/-- Below a power of two the steps are half as wide: there rounding cuts off one place less, and
    what it keeps carries. -/
theorem nearestPattern_of_narrow {x : Binary64} (narrow : x.Narrow) {num den : Nat} (hd : 0 < den)
    (low : 4 * (x.significand * (den * 2 ^ x.shift)) ≤ 4 * (num * unit) + den * 2 ^ x.shift)
    (high : 2 * (num * unit) ≤ 2 * (x.significand * (den * 2 ^ x.shift)) + den * 2 ^ x.shift) :
    nearestPattern num den = min x.pattern infinityPattern := by
  have step : 0 < den * 2 ^ x.shift := Nat.mul_pos hd (Nat.two_pow_pos _)
  obtain ⟨zero, above⟩ := narrow
  have power : x.significand = 4503599627370496 := by
    rw [significand, if_neg (Nat.ne_of_gt (Nat.lt_of_succ_lt above)), zero, pow_52]
  rw [pattern_eq]
  rw [power] at low high ⊢
  -- Only a ratio below the number itself is on the finer steps.
  rcases Nat.lt_or_ge (num * unit) (4503599627370496 * (den * 2 ^ x.shift)) with under | beyond
  · obtain ⟨place, next⟩ : ∃ place, x.shift = place + 1 :=
      Nat.exists_eq_add_one_of_ne_zero (Nat.sub_ne_zero_of_lt above)
    have double : den * 2 ^ x.shift = 2 * (den * 2 ^ place) := by
      rw [next, Nat.pow_succ]
      ring
    rw [double] at low high under
    rw [show x.shift * 4503599627370496 + 4503599627370496
        = place * 4503599627370496 + 9007199254740992 by omega]
    exact nearestPattern_at hd (.inr (by omega)) (by omega) (by omega) (by omega)
      (.inl (by decide))
  · exact nearestPattern_at hd (.inr beyond) (by omega) (by omega) high (.inl (by decide))

/-- **OWN INTERVAL**: a ratio in the interval of a number is rounded to the pattern of that
    number. -/
theorem nearestPattern_of_interval {x : Binary64} (finite : x.isFinite = true) {num den : Nat}
    (hd : 0 < den) (low : (Decimal.Interval.of x).low * den ≤ 4 * (num * unit))
    (high : 4 * (num * unit) ≤ (Decimal.Interval.of x).high * den)
    (inside : x.fraction % 2 ≠ 0 → (Decimal.Interval.of x).low * den < 4 * (num * unit)
      ∧ 4 * (num * unit) < (Decimal.Interval.of x).high * den) :
    nearestPattern num den = x.pattern := by
  have parity := x.significand_even
  rw [low_scaled] at low inside
  rw [high_scaled] at high inside
  rw [← Nat.min_eq_left (Nat.le_of_lt (pattern_lt finite))]
  -- At a power of two the lower half of the interval is cut in half, and ties are no concern.
  by_cases narrow : x.Narrow
  · rw [reach, if_pos narrow] at low
    exact nearestPattern_of_narrow narrow hd (by omega) (by omega)
  · rw [reach, if_neg narrow] at low inside
    refine nearestPattern_of_wide narrow hd (by omega) (by omega) ?_
    rw [parity]
    by_cases even : x.fraction % 2 = 0
    · exact .inl even
    · obtain ⟨above, below⟩ := inside even
      exact .inr (by omega)

end Vdom.Binary64

/-! ## Rational values -/

namespace Vdom.Decimal

/-- One, in the units of intervals. -/
def quarters : Nat := Nat.pow 2 1076

/-- Intervals are measured in quarters of the smallest subnormal. -/
theorem quarters_eq : quarters = 4 * Binary64.unit := by decide +kernel

theorem quarters_pos : (0 : ℚ) < quarters := by
  rw [quarters_eq]
  exact_mod_cast Nat.mul_pos (by decide) Binary64.unit_pos

/-- A rational value lies in an interval. -/
def Interval.Within (i : Interval) (q : ℚ) : Prop :=
  if i.closed then i.low ≤ q * quarters ∧ q * quarters ≤ i.high
  else i.low < q * quarters ∧ q * quarters < i.high

/-- Closed or open, an interval lies between its bounds. -/
theorem Interval.Within.bounds {i : Interval} {q : ℚ} (within : i.Within q) :
    i.low ≤ q * quarters ∧ q * quarters ≤ i.high := by
  rw [Within] at within
  split at within
  · exact within
  · exact ⟨within.1.le, within.2.le⟩

end Vdom.Decimal

namespace Vdom.Binary64

/-- The number next to a rational value, of two the even one (`nearest_nearest`). -/
def round (q : ℚ) : Binary64 := nearest (q < 0) q.num.natAbs q.den

/-- A number without its sign. -/
def unsigned (x : Binary64) : Binary64 := withSign false x.pattern

/-- A value with a sign. -/
def signed (negative : Bool) (q : ℚ) : ℚ := if negative then -q else q

/-- Rounding leaves the sign alone. -/
theorem round_signed (negative : Bool) {q : ℚ} (positive : 0 < q) :
    round (signed negative q) = withSign negative (nearestPattern q.num.natAbs q.den) := by
  cases negative with
  | false =>
      have sign : decide (q < 0) = false := decide_eq_false (not_lt.mpr positive.le)
      rw [signed, if_neg Bool.false_ne_true, round, sign]
      rfl
  | true =>
      have sign : decide (-q < 0) = true := decide_eq_true (neg_neg_of_pos positive)
      rw [signed, if_pos rfl, round, sign, Rat.num_neg_eq_neg_num, Int.natAbs_neg,
        Rat.den_neg_eq_den]
      rfl

/-- A value that is rounded to a number without its sign is rounded to the number with it. -/
theorem round_signed_of_unsigned {x : Binary64} (finite : x.isFinite = true) {q : ℚ}
    (positive : 0 < q) (rounds : round q = x.unsigned) : round (signed x.negative q) = x := by
  have whole : round q = withSign false (nearestPattern q.num.natAbs q.den) :=
    round_signed false positive
  have bound : nearestPattern q.num.natAbs q.den ≤ infinityPattern := Nat.min_le_right _ _
  have same := withSign_inj bound (Nat.le_of_lt (pattern_lt finite)) (whole.symm.trans rounds)
  rw [round_signed x.negative positive, same, withSign_pattern]

/-- **ROUNDS TO ITS NUMBER**: a positive value in the interval of a number is rounded to it. -/
theorem round_of_within {x : Binary64} (finite : x.isFinite = true) {q : ℚ} (positive : 0 < q)
    (within : (Decimal.Interval.of x).Within q) : round q = x.unsigned := by
  have scaled : q * Decimal.quarters * q.den = ((4 * (q.num.natAbs * unit) : ℕ) : ℚ) := by
    have num : ((q.num.natAbs : ℕ) : ℚ) = q * q.den := by
      rw [Nat.cast_natAbs, abs_of_pos (Rat.num_pos.mpr positive), Rat.mul_den_eq_num]
    rw [Decimal.quarters_eq]
    push_cast
    rw [num]
    ring
  have den : (0 : ℚ) < q.den := Nat.cast_pos.mpr q.den_pos
  -- Bounds on the value are bounds on its numerator and denominator, which rounding works with.
  have least (n : ℕ) : n ≤ q * Decimal.quarters ↔ n * q.den ≤ 4 * (q.num.natAbs * unit) := by
    rw [← mul_le_mul_iff_left₀ den, scaled, ← Nat.cast_mul, Nat.cast_le]
  have most (n : ℕ) : q * Decimal.quarters ≤ n ↔ 4 * (q.num.natAbs * unit) ≤ n * q.den := by
    rw [← mul_le_mul_iff_left₀ den, scaled, ← Nat.cast_mul, Nat.cast_le]
  obtain ⟨low, high⟩ := within.bounds
  show round (signed false q) = _
  rw [round_signed false positive, unsigned]
  refine congrArg (withSign false) ?_
  refine nearestPattern_of_interval finite q.den_pos ((least _).mp low) ((most _).mp high) ?_
  -- Next to an odd significand the bounds do not count, so that no tie is left to decide.
  intro odd
  rw [Decimal.Interval.Within, Decimal.Interval.of, decide_eq_false odd] at within
  obtain ⟨above, below⟩ := within
  rw [← not_le, least, not_le] at below
  rw [← not_le, most, not_le] at above
  exact ⟨above, below⟩

end Vdom.Binary64
