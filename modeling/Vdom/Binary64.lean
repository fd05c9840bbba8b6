/-!
# Binary64 — double-precision numbers as 64-bit patterns

A finite number is a whole multiple of the smallest subnormal, `2^-1074`; `magnitude` is that
multiple. With it, comparison, rounding, product and quotient are exact arithmetic on natural
numbers.

* **`same`** — numeric equality: not-a-number equals nothing and both zeros are one number.
* **`nearest`** — the binary64 number next to a ratio, halves to the even neighbour.
-/

namespace Vdom

/-- A double-precision number, by its bit pattern. -/
structure Binary64 where
  bits : UInt64
  deriving DecidableEq, Repr, Inhabited

namespace Binary64

/-- Whether the sign bit is set. -/
def negative (x : Binary64) : Bool :=
  Nat.pow 2 63 ≤ x.bits.toNat

/-- The eleven exponent bits. -/
def exponent (x : Binary64) : Nat :=
  x.bits.toNat / Nat.pow 2 52 % Nat.pow 2 11

/-- The fifty-two fraction bits. -/
def fraction (x : Binary64) : Nat :=
  x.bits.toNat % Nat.pow 2 52

/-- Whether the pattern is a number and not an infinity. -/
def isFinite (x : Binary64) : Bool :=
  x.exponent ≠ 2047

/-- Whether the pattern is not a number. -/
def isNaN (x : Binary64) : Bool :=
  x.exponent = 2047 ∧ x.fraction ≠ 0

/-- Whether the number is one of the two zeros. -/
def isZero (x : Binary64) : Bool :=
  x.exponent = 0 ∧ x.fraction = 0

/-- The significand of a finite number: the fraction, with its hidden bit unless subnormal. -/
def significand (x : Binary64) : Nat :=
  if x.exponent = 0 then x.fraction else Nat.pow 2 52 + x.fraction

/-- How many binary places the significand is shifted left of the smallest subnormal. -/
def shift (x : Binary64) : Nat :=
  x.exponent - 1

/-- The absolute value of a finite number in units of `2^-1074`. -/
def magnitude (x : Binary64) : Nat :=
  x.significand * Nat.pow 2 x.shift

/-- Numeric equality. -/
def same (x y : Binary64) : Bool :=
  !x.isNaN && !y.isNaN && (x == y || x.isZero && y.isZero)

/-- The pattern with the sign bit set or cleared; `pattern` is below `2^63`. -/
def withSign (negative : Bool) (pattern : Nat) : Binary64 :=
  ⟨UInt64.ofNat (pattern + if negative then Nat.pow 2 63 else 0)⟩

/-- The pattern of the positive infinity. -/
def infinityPattern : Nat := 2047 * Nat.pow 2 52

/-- The whole number next to `num / den`, a half going to the even neighbour. -/
def roundHalfEven (num den : Nat) : Nat :=
  let floor := num / den
  let twice := 2 * (num % den)
  if twice < den then floor
  else if den < twice then floor + 1
  else floor + floor % 2

/-- The pattern next to `num / den`, a half going to the even neighbour and what is too large to
    infinity. A significand that rounds up to the next power of two carries into the exponent. -/
def nearestPattern (num den : Nat) : Nat :=
  let units := num * Nat.pow 2 1074
  let shift := (units / den).log2 - 52
  min (shift * Nat.pow 2 52 + roundHalfEven units (den * Nat.pow 2 shift)) infinityPattern

/-- The number next to `num / den` with the given sign. -/
def nearest (negative : Bool) (num den : Nat) : Binary64 :=
  withSign negative (nearestPattern num den)

/-- The number next to a whole number. -/
def ofInt (i : Int) : Binary64 :=
  nearest (i < 0) i.natAbs 1

/-- The rounded product of two finite numbers. -/
def mul (x y : Binary64) : Binary64 :=
  nearest (x.negative != y.negative) (x.magnitude * y.magnitude) (Nat.pow 2 2148)

/-- The rounded quotient of two finite numbers, the second not zero. -/
def div (x y : Binary64) : Binary64 :=
  nearest (x.negative != y.negative) x.magnitude y.magnitude

end Binary64

end Vdom
