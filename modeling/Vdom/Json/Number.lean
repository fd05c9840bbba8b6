import Vdom.Json.Scan
/-!
# Numbers — numerals and what they stand for

* **`readNumeral`** — the digits of a number, cut from the text.
* **`Numeral.value`** — a whole number if it fits a 64-bit word, signed or unsigned; otherwise a
  binary64 number, scaled from at most twenty significant digits by powers of ten. The scaling
  rounds at every step, so the last bit may differ from the nearest number.
-/

namespace Vdom.Json

/-- A number as it is spelled. -/
structure Numeral where
  negative : Bool
  whole : List Char
  /-- The digits behind the point, if there is one. -/
  fraction : Option (List Char)
  /-- Whether the exponent is negative, and its digits, if there is one. -/
  exponent : Option (Bool × List Char)

/-- Whether a character is a decimal digit. -/
def isDigit (c : Char) : Bool := '0' ≤ c && c ≤ '9'

/-- The digits at the front of a text, of which there must be one. `atEnd` is the problem of a
    text that ends instead. -/
def readDigits (atEnd : Problem) (cs : List Char) : Except Problem (List Char × List Char) :=
  match cs.takeWhile isDigit, cs.dropWhile isDigit with
  | [], [] => .error atEnd
  | [], _ :: _ => .error .malformed
  | digits, rest => .ok (digits, rest)

/-- The digits before the point: a zero alone, or digits that start with no zero. -/
def readWhole (atEnd : Problem) (cs : List Char) : Except Problem (List Char × List Char) :=
  match readDigits atEnd cs with
  | .ok ('0' :: _ :: _, _) => .error .malformed
  | result => result

/-- The digits behind a point, if there is a point. -/
def readFraction (atEnd : Problem) : List Char → Except Problem (Option (List Char) × List Char)
  | '.' :: rest => (readDigits atEnd rest).map fun (digits, rest) => (some digits, rest)
  | rest => .ok (none, rest)

/-- The digits of an exponent with their sign. -/
def readExponentDigits (atEnd : Problem) :
    List Char → Except Problem (Option (Bool × List Char) × List Char)
  | '-' :: rest => (readDigits atEnd rest).map fun (digits, rest) => (some (true, digits), rest)
  | '+' :: rest => (readDigits atEnd rest).map fun (digits, rest) => (some (false, digits), rest)
  | rest => (readDigits atEnd rest).map fun (digits, rest) => (some (false, digits), rest)

/-- The exponent, if there is one. -/
def readExponent (atEnd : Problem) :
    List Char → Except Problem (Option (Bool × List Char) × List Char)
  | 'e' :: rest => readExponentDigits atEnd rest
  | 'E' :: rest => readExponentDigits atEnd rest
  | rest => .ok (none, rest)

/-- The numeral without its sign. -/
def readUnsigned (atEnd : Problem) (negative : Bool) (cs : List Char) :
    Except Problem (Numeral × List Char) := do
  let (whole, rest) ← readWhole atEnd cs
  let (fraction, rest) ← readFraction atEnd rest
  let (exponent, rest) ← readExponent atEnd rest
  .ok ({ negative, whole, fraction, exponent }, rest)

/-- The numeral at the front of a text. -/
def readNumeral (atEnd : Problem) : List Char → Except Problem (Numeral × List Char)
  | '-' :: rest => readUnsigned atEnd true rest
  | cs => readUnsigned atEnd false cs

/-! ## Values -/

/-- A number that was read. -/
inductive Number where
  | whole (i : Int)
  | float (x : Binary64)
  deriving DecidableEq, Repr

/-- The value of a decimal digit. -/
def digitValue (c : Char) : Nat := c.toNat - '0'.toNat

/-- Append digits to a significand while it fits an unsigned 64-bit word, and count those kept. -/
def keepDigits (significand : Nat) : List Char → Nat × Nat
  | [] => (significand, 0)
  | d :: rest =>
    let next := significand * 10 + digitValue d
    if next < UInt64.size then
      let (last, kept) := keepDigits next rest
      (last, kept + 1)
    else (significand, 0)

/-- A power of ten as a number. -/
def powerOfTen (n : Nat) : Binary64 := .nearest false (Nat.pow 10 n) 1

/-- The product `x × 10^exponent` for a positive `x`, in steps of at most `10^308`. -/
def scale (x : Binary64) (exponent : Int) : Except Problem Binary64 :=
  if 308 < exponent then
    if x.isZero then .ok x else .error .malformed
  else if 0 ≤ exponent then
    let y := x.mul (powerOfTen exponent.toNat)
    if y.isFinite then .ok y else .error .malformed
  else if -308 ≤ exponent then .ok (x.div (powerOfTen (-exponent).toNat))
  else if x.isZero then .ok x
  else scale (x.div (powerOfTen 308)) (exponent + 308)
termination_by (-exponent).toNat
decreasing_by omega

/-- The number with its sign flipped if `negative`. -/
def signed (negative : Bool) (x : Binary64) : Binary64 :=
  .withSign negative (x.bits.toNat % Nat.pow 2 63)

/-- The exponent that a numeral gives, zero if it gives none. -/
def Numeral.givenExponent (n : Numeral) : Int :=
  match n.exponent with
  | none => 0
  | some (negative, digits) =>
    let magnitude : Int := digits.foldl (fun acc d => acc * 10 + digitValue d) 0
    if negative then -magnitude else magnitude

/-- The numeral as a binary64 number. An exponent beyond 32 bits leaves zero or overflows. -/
def Numeral.float (n : Numeral) : Except Problem Binary64 :=
  let (significand, kept) := keepDigits 0 n.whole
  let (significand, keptAfter) := keepDigits significand (n.fraction.getD [])
  let exponent := n.givenExponent
  let place : Int := (n.whole.length - kept : Int) - keptAfter + exponent
  let magnitude : Except Problem Binary64 :=
    if Int32.maxValue.toInt < exponent.natAbs then
      if significand = 0 ∨ exponent < 0 then .ok (.ofInt 0) else .error .malformed
    else scale (.ofInt significand) place
  magnitude.map (signed n.negative)

/-- What a numeral stands for. Minus zero is no whole number. -/
def Numeral.value (n : Numeral) : Except Problem Number :=
  let magnitude : Nat := n.whole.foldl (fun acc d => acc * 10 + digitValue d) 0
  let isWhole : Bool :=
    if n.fraction.isSome || n.exponent.isSome then false
    else if n.negative then 0 < magnitude && Int64.minValue.toInt ≤ -magnitude
    else magnitude < UInt64.size
  if isWhole then .ok (.whole (if n.negative then -magnitude else magnitude))
  else n.float.map .float

/-- The number at the front of a text. -/
def readNumber : Reader Number := fun cs => do
  let (numeral, rest) ← readNumeral .cutShort cs
  let number ← numeral.value
  .ok (number, rest)

end Vdom.Json
