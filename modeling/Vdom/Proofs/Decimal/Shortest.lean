import Vdom.Proofs.Decimal.Interval
/-!
# Shortest decimals — the first grid that meets the interval

`search` goes through the grids of the powers of ten from the coarsest to the finest and stops at
the first one with a point in the interval of a number. All it looks at are the two points next to
the number; as the interval is in one piece and has the number inside, these are enough.

* **`holds_iff`** — the test of a point is exact.
* **`onGrid_some`**, **`onGrid_none`** — the two points stand for the whole grid.
* **`search_spec`** — what is found lies in the interval, and no coarser grid meets it.
* **`shortest_rounds`**, **`shortest_significand`** — so the decimal found rounds to the number, and
  its significand does not end in a zero.
-/

namespace Vdom.Decimal

/-- The value of a decimal. -/
def exact (d : Decimal) : ℚ := d.significand * 10 ^ d.exponent

/-! ## Grids -/

/-- The exponent is generalised, as for `unit_eq`. -/
theorem gridStep_eq (t : Int) : gridStep t = if 0 ≤ t then (10 ^ t.toNat * quarters, 1)
    else (quarters, 10 ^ (-t).toNat) := by
  unfold gridStep quarters
  generalize 1076 = places
  rfl

/-- The step of a grid is a power of ten, over its denominator. -/
theorem gridStep_ratio (t : Int) :
    0 < (gridStep t).2 ∧ ((gridStep t).1 : ℚ) = 10 ^ t * quarters * (gridStep t).2 := by
  rw [gridStep_eq]
  rcases le_or_gt 0 t with whole | part
  · obtain ⟨n, rfl⟩ := Int.eq_ofNat_of_zero_le whole
    rw [if_pos whole, Int.toNat_natCast, zpow_natCast]
    refine ⟨Nat.one_pos, ?_⟩
    rw [Nat.cast_mul, Nat.cast_pow, Nat.cast_ofNat, Nat.cast_one, mul_one]
  · obtain ⟨n, hn⟩ := Int.eq_ofNat_of_zero_le (Int.le_of_lt (Int.neg_pos_of_neg part))
    obtain rfl : t = -n := by omega
    have ten : (10 : ℚ) ^ n ≠ 0 := pow_ne_zero n (by norm_num)
    rw [if_neg (not_le.mpr part), Int.neg_neg, Int.toNat_natCast, zpow_neg, zpow_natCast]
    refine ⟨Nat.pow_pos (by decide), ?_⟩
    rw [Nat.cast_pow, Nat.cast_ofNat, mul_right_comm, inv_mul_cancel₀ ten, one_mul]

/-- Where a point of a grid stands, over the denominator of the grid. -/
theorem exact_scaled (c : Nat) (t : Int) :
    ((c * (gridStep t).1 : ℕ) : ℚ) = exact ⟨c, t⟩ * quarters * (gridStep t).2 := by
  rw [Nat.cast_mul, (gridStep_ratio t).2, exact]
  ring

theorem gridStep_den_pos (t : Int) : (0 : ℚ) < (gridStep t).2 :=
  Nat.cast_pos.mpr (gridStep_ratio t).1

/-- A point of a grid against a bound below it. -/
theorem le_exact_iff (n c : Nat) (t : Int) :
    n * (gridStep t).2 ≤ c * (gridStep t).1 ↔ n ≤ exact ⟨c, t⟩ * quarters := by
  rw [← mul_le_mul_iff_left₀ (gridStep_den_pos t), ← exact_scaled, ← Nat.cast_mul, Nat.cast_le]

/-- A point of a grid against a bound above it. -/
theorem exact_le_iff (n c : Nat) (t : Int) :
    c * (gridStep t).1 ≤ n * (gridStep t).2 ↔ exact ⟨c, t⟩ * quarters ≤ n := by
  rw [← mul_le_mul_iff_left₀ (gridStep_den_pos t), ← exact_scaled, ← Nat.cast_mul, Nat.cast_le]

/-- **EXACT**: a point passes the test if it lies in the interval. -/
theorem holds_iff (i : Interval) (c : Nat) (t : Int) :
    i.holds c t = true ↔ i.Within (exact ⟨c, t⟩) := by
  have low := le_exact_iff i.low c t
  have high := exact_le_iff i.high c t
  have above := (exact_le_iff i.low c t).not
  have below := (le_exact_iff i.high c t).not
  simp only [not_le] at above below
  rw [Interval.Within, ← low, ← high, ← above, ← below]
  simp only [Interval.holds]
  split <;> exact decide_eq_true_iff

/-! ## One piece -/

/-- The number is inside the interval. -/
structure Interval.Proper (i : Interval) : Prop where
  below : i.low < i.mid
  above : i.mid < i.high

/-- The number itself. -/
def Interval.center (i : Interval) : ℚ := i.mid / quarters

theorem Interval.center_scaled (i : Interval) : i.center * quarters = i.mid :=
  div_mul_cancel₀ _ quarters_pos.ne'

/-- A proper interval has its centre in it. -/
theorem Interval.Proper.center {i : Interval} (proper : i.Proper) : i.Within i.center := by
  have below : (i.low : ℚ) < i.mid := Nat.cast_lt.mpr proper.below
  have above : (i.mid : ℚ) < i.high := Nat.cast_lt.mpr proper.above
  rw [Within, center_scaled]
  by_cases closed : i.closed = true
  · rw [if_pos closed]
    exact ⟨below.le, above.le⟩
  · rw [if_neg closed]
    exact ⟨below, above⟩

/-- An interval has all that is between two values in it. -/
theorem Interval.Within.between {i : Interval} {p q r : ℚ} (hp : i.Within p) (hr : i.Within r)
    (left : p ≤ q) (right : q ≤ r) : i.Within q := by
  have first := mul_le_mul_of_nonneg_right left quarters_pos.le
  have second := mul_le_mul_of_nonneg_right right quarters_pos.le
  by_cases closed : i.closed = true
  · rw [Within, if_pos closed] at hp hr ⊢
    exact ⟨hp.1.trans first, second.trans hr.2⟩
  · rw [Within, if_neg closed] at hp hr ⊢
    exact ⟨hp.1.trans_le first, second.trans_lt hr.2⟩

theorem exact_mono {c d : Nat} (t : Int) (h : c ≤ d) : exact ⟨c, t⟩ ≤ exact ⟨d, t⟩ :=
  mul_le_mul_of_nonneg_right (Nat.cast_le.mpr h) (zpow_nonneg (by norm_num) t)

/-! ## The two points next to the number -/

/-- A point that is found on a grid lies in the interval. -/
theorem onGrid_some {i : Interval} {tie : Tie} {t : Int} {c : Nat}
    (found : i.onGrid tie t = some c) : i.Within (exact ⟨c, t⟩) := by
  simp only [Interval.onGrid] at found
  split at found
  -- Of the two points next to the centre, both, one or none may lie in the interval.
  · rename_i lower upper
    obtain rfl := Option.some.inj found
    simp only [Interval.nearer]
    split
    · exact (holds_iff i _ t).mp lower
    · exact (holds_iff i _ t).mp upper
  · rename_i lower _
    obtain rfl := Option.some.inj found
    exact (holds_iff i _ t).mp lower
  · rename_i _ upper
    obtain rfl := Option.some.inj found
    exact (holds_iff i _ t).mp upper
  · exact nomatch found

/-- The number stands between the two points. -/
theorem center_between (i : Interval) (t : Int) :
    exact ⟨i.mid * (gridStep t).2 / (gridStep t).1, t⟩ ≤ i.center
      ∧ i.center ≤ exact ⟨i.mid * (gridStep t).2 / (gridStep t).1 + 1, t⟩ := by
  have num : 0 < (gridStep t).1 := by
    refine Nat.cast_pos.mp (lt_of_lt_of_eq ?_ (gridStep_ratio t).2.symm)
    exact mul_pos (mul_pos (zpow_pos (by norm_num) t) quarters_pos) (gridStep_den_pos t)
  have lower := (exact_le_iff i.mid _ t).mp (Nat.div_mul_le_self _ _)
  have upper := (le_exact_iff i.mid _ t).mp (Nat.lt_mul_of_div_lt (Nat.lt_succ_self _) num).le
  rw [← Interval.center_scaled] at lower upper
  exact ⟨le_of_mul_le_mul_right lower quarters_pos, le_of_mul_le_mul_right upper quarters_pos⟩

/-- If neither of the two points is in the interval, no point of the grid is. -/
theorem onGrid_none {i : Interval} (proper : i.Proper) {tie : Tie} {t : Int}
    (missed : i.onGrid tie t = none) (c : Nat) : ¬ i.Within (exact ⟨c, t⟩) := by
  intro within
  obtain ⟨left, right⟩ := center_between i t
  simp only [Interval.onGrid] at missed
  split at missed
  · exact nomatch missed
  · exact nomatch missed
  · exact nomatch missed
  · rename_i lower upper
    -- A point in the interval has one of the two between itself and the number.
    rcases Nat.lt_or_ge (i.mid * (gridStep t).2 / (gridStep t).1) c with above | below
    · have inside := proper.center.between within right (exact_mono t above)
      exact Bool.false_ne_true (upper.symm.trans ((holds_iff i _ t).mpr inside))
    · have inside := within.between proper.center (exact_mono t below) left
      exact Bool.false_ne_true (lower.symm.trans ((holds_iff i _ t).mpr inside))

/-! ## From the coarsest grid on -/

/-- A decimal in the interval, on the coarsest grid up to `10^top` that has one. -/
structure Coarsest (i : Interval) (top : Int) (d : Decimal) : Prop where
  within : i.Within d.exact
  bounded : d.exponent ≤ top
  first : ∀ t, d.exponent < t → t ≤ top → ∀ c, ¬ i.Within (exact ⟨c, t⟩)

/-- The number itself is on the finest grid. -/
theorem exact_finest (m places : Nat) :
    exact ⟨m * 10 ^ places / 2 ^ places, -places⟩ = m / 2 ^ places := by
  have whole : m * 10 ^ places / 2 ^ places = m * 5 ^ places := by
    rw [show 10 = 5 * 2 from rfl, Nat.mul_pow, ← Nat.mul_assoc,
      Nat.mul_div_cancel _ (Nat.two_pow_pos places)]
  have ten : (10 : ℚ) ^ places = 5 ^ places * 2 ^ places := by
    rw [← mul_pow]
    norm_num
  rw [exact, whole, zpow_neg, zpow_natCast, ten]
  push_cast
  field_simp

/-- The finest grid of all has the centre itself on it. -/
theorem search_zero (i : Interval) (tie : Tie) : exact (search i tie 0) = i.center := by
  obtain ⟨places, step, first⟩ : ∃ places : Nat, quarters = 2 ^ places
      ∧ search i tie 0 = ⟨i.mid * 10 ^ places / 2 ^ places, -places⟩ := by
    unfold search quarters
    rw [show (-1076 : Int) = -(1076 : Nat) from rfl]
    generalize 1076 = places
    exact ⟨places, rfl, rfl⟩
  rw [first, exact_finest, Interval.center, step, Nat.cast_pow, Nat.cast_ofNat]

/-- **THE FIRST GRID**: the search finds a point of the interval, and there is none on the coarser
    grids. -/
theorem search_coarsest {i : Interval} (proper : i.Proper) (tie : Tie) (n : Nat) :
    Coarsest i (n - 1076) (search i tie n) := by
  induction n with
  -- On the finest grid the centre itself is found, and below that there are no grids to compare.
  | zero =>
      refine ⟨?_, le_rfl, ?_⟩
      · rw [search_zero]
        exact proper.center
      intro t above below
      exact absurd (above.trans_le below) (lt_irrefl _)
  | succ n ih =>
      rw [search, Nat.cast_succ]
      cases found : i.onGrid tie (n + 1 - 1076) with
      | some c =>
          refine ⟨onGrid_some found, le_rfl, ?_⟩
          intro t above below
          exact absurd (above.trans_le below) (lt_irrefl _)
      | none =>
          refine ⟨ih.within, ih.bounded.trans (by omega), ?_⟩
          intro t above below c
          -- This grid has no point, and for the finer ones the induction says where the first is.
          rcases eq_or_lt_of_le below with rfl | lower
          · exact onGrid_none proper found c
          · exact ih.first t above (by omega) c

/-! ## The shortest decimal of a number -/

section Number

variable {x : Binary64}

/-- Only zero has no significand. -/
theorem significand_pos (nonzero : x.isZero = false) : 0 < x.significand := by
  have other := of_decide_eq_false nonzero
  rw [Binary64.significand, Binary64.pow_52]
  split <;> omega

/-- The interval of a number other than zero is proper, and above zero. -/
theorem proper_of (nonzero : x.isZero = false) :
    (Interval.of x).Proper ∧ 0 < (Interval.of x).low := by
  have step : 0 < 1 * 2 ^ x.shift := Nat.mul_pos Nat.one_pos (Nat.two_pow_pos _)
  have enough : 1 * 2 ^ x.shift ≤ x.significand * (1 * 2 ^ x.shift) :=
    Nat.le_mul_of_pos_left _ (significand_pos nonzero)
  have low := x.low_scaled 1
  have high := x.high_scaled 1
  have mid : (Interval.of x).mid = 4 * (x.significand * (1 * 2 ^ x.shift)) := by
    rw [Nat.one_mul]
    rfl
  rw [Nat.mul_one] at low high
  have reach : x.reach = 1 ∨ x.reach = 2 := by
    rw [Binary64.reach]
    split
    · exact .inl rfl
    · exact .inr rfl
  rcases reach with one | two
  · rw [one] at low
    exact ⟨⟨by omega, by omega⟩, by omega⟩
  · rw [two] at low
    exact ⟨⟨by omega, by omega⟩, by omega⟩

/-- The exponents are generalised, as for `unit_eq`. -/
theorem room_eq : ∃ places top : Nat, places = 2045 ∧ (top : Int) = 309
    ∧ 36028797018963968 * 2 ^ places ≤ 10 ^ top * quarters :=
  ⟨2045, 309, rfl, rfl, by decide +kernel⟩

/-- No number is as large as the first step of the coarsest grid. -/
theorem high_lt (finite : x.isFinite = true) :
    ∃ top : Nat, (top : Int) = 309 ∧ (Interval.of x).high < 10 ^ top * quarters := by
  obtain ⟨places, top, most, coarse, room⟩ := room_eq
  refine ⟨top, coarse, lt_of_lt_of_le ?_ room⟩
  have shifted : x.shift ≤ places := by
    have exponent : x.exponent < 2048 := Nat.mod_lt _ (by decide)
    have other : x.exponent ≠ 2047 := of_decide_eq_true finite
    rw [Binary64.shift]
    omega
  have step : 2 ^ x.shift ≤ 2 ^ places := Nat.pow_le_pow_right (by decide) shifted
  have lowest : 0 < 2 ^ x.shift := Nat.two_pow_pos _
  have bound := Nat.mul_le_mul_right (2 ^ x.shift) (Nat.le_of_lt_succ x.significand_lt)
  have high := x.high_scaled 1
  rw [Nat.mul_one, Nat.one_mul] at high
  omega

/-- The shortest decimal is found on the coarsest grid that has one. -/
theorem shortest_coarsest (nonzero : x.isZero = false) (tie : Tie) :
    Coarsest (Interval.of x) 309 (shortest tie x) := by
  have found := search_coarsest (proper_of nonzero).1 tie (1076 + 309)
  rw [show ((1076 + 309 : Nat) : Int) - 1076 = 309 by norm_num] at found
  exact found

/-- The shortest decimal is above zero, so that rounding it looks at no sign. -/
theorem exact_shortest_pos (nonzero : x.isZero = false) (tie : Tie) :
    0 < (shortest tie x).exact := by
  obtain ⟨low, -⟩ := (shortest_coarsest nonzero tie).within.bounds
  have positive : (0 : ℚ) < (Interval.of x).low := Nat.cast_pos.mpr (proper_of nonzero).2
  exact pos_of_mul_pos_left (positive.trans_le low) quarters_pos.le

/-- **ROUNDS TO THE NUMBER**. -/
theorem shortest_rounds (finite : x.isFinite = true) (nonzero : x.isZero = false) (tie : Tie) :
    Binary64.round (shortest tie x).exact = x.unsigned :=
  Binary64.round_of_within finite (exact_shortest_pos nonzero tie)
    (shortest_coarsest nonzero tie).within

/-- **NO DIGIT TOO MUCH**: a decimal that ends in a zero would be on a coarser grid as well. -/
theorem shortest_significand (finite : x.isFinite = true) (nonzero : x.isZero = false) (tie : Tie) :
    0 < (shortest tie x).significand ∧ (shortest tie x).significand % 10 ≠ 0 := by
  have positive := exact_shortest_pos nonzero tie
  obtain ⟨within, bounded, first⟩ := shortest_coarsest nonzero tie
  generalize shortest tie x = d at positive within bounded first
  have some : 0 < d.significand := by
    refine Nat.pos_of_ne_zero fun none => ?_
    rw [exact, none, Nat.cast_zero, zero_mul] at positive
    exact lt_irrefl _ positive
  refine ⟨some, fun zero => ?_⟩
  -- There is no coarser grid to turn to on the first one; but no number is that large.
  rcases eq_or_lt_of_le bounded with top | lower
  · obtain ⟨most, coarse, beyond⟩ := high_lt finite
    have far : ((10 ^ most * quarters : ℕ) : ℚ) ≤ d.exact * quarters := by
      rw [exact, top, ← coarse, zpow_natCast, Nat.cast_mul, Nat.cast_pow, Nat.cast_ofNat]
      refine mul_le_mul_of_nonneg_right ?_ quarters_pos.le
      exact le_mul_of_one_le_left (by positivity) (Nat.one_le_cast.mpr some)
    exact absurd (Nat.cast_le.mp (far.trans within.bounds.2)) (Nat.not_le.mpr beyond)
  · have coarser : exact ⟨d.significand / 10, d.exponent + 1⟩ = d.exact := by
      rw [exact, exact, zpow_add_one₀ (by norm_num)]
      have whole : (d.significand : ℚ) = ((d.significand / 10 : ℕ) : ℚ) * 10 := by
        exact_mod_cast (Nat.div_mul_cancel (Nat.dvd_of_mod_eq_zero zero)).symm
      rw [whole]
      ring
    exact first (d.exponent + 1) (lt_add_one _) lower _ (coarser ▸ within)

end Number

end Vdom.Decimal
