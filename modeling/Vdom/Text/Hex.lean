/-!
# Hexadecimal words — 32-bit patterns in base sixteen

* **`write`** — lower-case digits without leading zeros.
* **`read?`** — digits of either case, an optional plus sign before them, at least one digit and
  a value below `2^32`.
-/

namespace Vdom.Text.Hex

/-- The value of a hexadecimal digit of either case. -/
def digit? (c : Char) : Option Nat :=
  if '0' ≤ c ∧ c ≤ '9' then some (c.toNat - '0'.toNat)
  else if 'a' ≤ c ∧ c ≤ 'f' then some (c.toNat - 'a'.toNat + 10)
  else if 'A' ≤ c ∧ c ≤ 'F' then some (c.toNat - 'A'.toNat + 10)
  else none

/-- The value of the digits `cs` read after digits of value `acc`. -/
def readDigits? (acc : Nat) : List Char → Option Nat
  | [] => some acc
  | c :: rest =>
    match digit? c with
    | some d => readDigits? (acc * 16 + d) rest
    | none => none

/-- The digits of a word, lower case, without leading zeros. -/
def write (word : UInt32) : List Char :=
  Nat.toDigits 16 word.toNat

/-- The characters after one leading plus sign. -/
def dropPlus : List Char → List Char
  | '+' :: rest => rest
  | cs => cs

/-- The word that `cs` spells, if it spells one. -/
def read? (cs : List Char) : Option UInt32 :=
  match dropPlus cs with
  | [] => none
  | c :: rest =>
    match readDigits? 0 (c :: rest) with
    | some n => if n < UInt32.size then some (UInt32.ofNat n) else none
    | none => none

end Vdom.Text.Hex
