import Vdom.Binary64
/-!
# Shortest decimals — the fewest digits that read back

A finite number owns the reals that round to it: an interval from half a step below to half a
step above, the ends included when its significand is even, and only a quarter step wide below
where the step itself halves. `shortest` looks for the coarsest decimal grid with a point in that
interval and takes the point next to the number; `Tie` says which of two equally near.

Every finite number lies on the grid of `10^-1076`, so the search ends with a point of the
interval whatever the number is.
-/

namespace Vdom

/-- The decimal `significand × 10^exponent`. -/
structure Decimal where
  significand : Nat
  exponent : Int
  deriving DecidableEq, Repr

namespace Decimal

/-- The digits of the significand. -/
def digits (d : Decimal) : List Char :=
  Nat.toDigits 10 d.significand

/-- Where the point stands relative to the first digit. -/
def point (d : Decimal) : Int :=
  d.digits.length + d.exponent

/-- Which of two equally near points of a grid is taken. -/
inductive Tie where
  /-- The upper one. -/
  | up
  /-- The one whose significand is even. -/
  | even
  deriving DecidableEq, Repr

/-- Whether the lower one of two equally near points is taken, `below` being its significand. -/
def Tie.takesLower (tie : Tie) (below : Nat) : Bool :=
  match tie with
  | .up => false
  | .even => below % 2 = 0

/-- The reals that round to a number, in units of `2^-1076`. -/
structure Interval where
  low : Nat
  mid : Nat
  high : Nat
  closed : Bool

/-- The interval of the finite number `x`. -/
def Interval.of (x : Binary64) : Interval :=
  let step := Nat.pow 2 x.shift
  { low := 4 * x.magnitude - (if x.fraction = 0 ∧ 1 < x.exponent then 1 else 2) * step
    mid := 4 * x.magnitude
    high := 4 * x.magnitude + 2 * step
    closed := x.fraction % 2 = 0 }

/-- The units of `2^-1076` in the grid step `10^t`, over a denominator: `10^t` is
    `(gridStep t).1 / (gridStep t).2` of them. -/
def gridStep (t : Int) : Nat × Nat :=
  if 0 ≤ t then (Nat.pow 10 t.toNat * Nat.pow 2 1076, 1)
  else (Nat.pow 2 1076, Nat.pow 10 (-t).toNat)

/-- Whether `c × 10^t` rounds to the number of the interval. -/
def Interval.holds (i : Interval) (c : Nat) (t : Int) : Bool :=
  let (num, den) := gridStep t
  if i.closed then i.low * den ≤ c * num ∧ c * num ≤ i.high * den
  else i.low * den < c * num ∧ c * num < i.high * den

/-- Of the points `below` and `below + 1` of the grid `10^t`, the one next to the number. -/
def Interval.nearer (i : Interval) (tie : Tie) (below : Nat) (t : Int) : Nat :=
  let (num, den) := gridStep t
  let twice := 2 * (i.mid * den)
  let middle := (2 * below + 1) * num
  if twice < middle ∨ twice = middle ∧ tie.takesLower below then below else below + 1

/-- The point of the grid `10^t` in the interval that is next to its number, if there is one. -/
def Interval.onGrid (i : Interval) (tie : Tie) (t : Int) : Option Nat :=
  let (num, den) := gridStep t
  let below := i.mid * den / num
  match i.holds below t, i.holds (below + 1) t with
  | true, true => some (i.nearer tie below t)
  | true, false => some below
  | false, true => some (below + 1)
  | false, false => none

/-- The first point found on the grids from `10^(n - 1076)` downwards. -/
def search (i : Interval) (tie : Tie) : Nat → Decimal
  | 0 => ⟨i.mid * Nat.pow 10 1076 / Nat.pow 2 1076, -1076⟩
  | n + 1 =>
    match i.onGrid tie (n + 1 - 1076) with
    | some c => ⟨c, n + 1 - 1076⟩
    | none => search i tie n

/-- The shortest decimal that rounds to the finite number `x`, next to it among those. -/
def shortest (tie : Tie) (x : Binary64) : Decimal :=
  search (Interval.of x) tie (1076 + 309)

end Decimal

end Vdom
