import Vdom.Decimal.Shortest
/-!
# Decimal notation — where the point goes

Given digits and the place of the point, a number is written positionally while the point stays
near the digits, and with an exponent otherwise. `Layout` holds the decisions in which such
notations differ.
-/

namespace Vdom.Decimal

/-- The decisions of a decimal notation. -/
structure Layout where
  /-- Which of two equally short and equally near decimals is written. -/
  tie : Tie
  /-- The most digits before the point in positional form. -/
  widest : Int
  /-- The point of a positional number below one lies above this place. -/
  deepest : Int
  /-- What follows a whole number. -/
  wholeMark : List Char

/-- The exponent form: one digit, the others behind a point, then the exponent with its sign. -/
def scientific (digits : List Char) (exponent : Int) : List Char :=
  let sign := if 0 ≤ exponent then '+' else '-'
  let head := match digits with
    | [] => []
    | [d] => [d]
    | d :: rest => d :: '.' :: rest
  head ++ 'e' :: sign :: Nat.toDigits 10 exponent.natAbs

/-- The text of the digits with the point after `point` of them. -/
def Layout.place (l : Layout) (digits : List Char) (point : Int) : List Char :=
  if digits.length ≤ point ∧ point ≤ l.widest then
    digits ++ List.replicate (point - digits.length).toNat '0' ++ l.wholeMark
  else if 0 < point ∧ point ≤ l.widest then
    digits.take point.toNat ++ '.' :: digits.drop point.toNat
  else if l.deepest < point ∧ point ≤ 0 then
    '0' :: '.' :: (List.replicate (-point).toNat '0' ++ digits)
  else
    scientific digits (point - 1)

/-- The text of the absolute value of a finite number that is not zero. -/
def Layout.write (l : Layout) (x : Binary64) : List Char :=
  let d := shortest l.tie x
  l.place d.digits d.point

end Vdom.Decimal
