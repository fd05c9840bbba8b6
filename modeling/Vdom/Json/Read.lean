import Vdom.Json.Skip
/-!
# Reading scalars — values of a known type

Each reader skips the blanks before its value. A scalar of another type is read to its end before
it is reported, so that a flaw inside it comes first; an array or object is reported at its
opening bracket.
-/

namespace Vdom.Json

/-- The problem of a value that is not the one wanted. -/
def mismatch (wanted : String) : List Char → Problem
  | [] => .cutShort
  | 'n' :: rest =>
    match skipWord ['u', 'l', 'l'] rest with
    | .ok _ => .wrongType .null wanted
    | .error p => p
  | 't' :: rest =>
    match skipWord ['r', 'u', 'e'] rest with
    | .ok _ => .wrongType (.bool true) wanted
    | .error p => p
  | 'f' :: rest =>
    match skipWord ['a', 'l', 's', 'e'] rest with
    | .ok _ => .wrongType (.bool false) wanted
    | .error p => p
  | '"' :: rest =>
    match readText rest with
    | .ok (s, _) => .wrongType (.text (String.ofList s)) wanted
    | .error p => p
  | '[' :: _ => .wrongType .sequence wanted
  | '\x7b' :: _ => .wrongType .map wanted
  | c :: rest =>
    if c = '-' || isDigit c then
      match readNumber (c :: rest) with
      | .ok (.whole i, _) => .wrongType (.whole i) wanted
      | .ok (.float x, _) => .wrongType (.float x) wanted
      | .error p => p
    else .malformed

/-- A truth value. -/
def readBool : Reader Bool := fun cs =>
  match skipSpace cs with
  | 't' :: rest => (skipWord ['r', 'u', 'e'] rest).map (true, ·)
  | 'f' :: rest => (skipWord ['a', 'l', 's', 'e'] rest).map (false, ·)
  | rest => .error (mismatch "a boolean" rest)

/-- A string, where a value described as `wanted` is expected. -/
def readStringAs (wanted : String) : Reader String := fun cs =>
  match skipSpace cs with
  | '"' :: rest => (readText rest).map fun (s, rest) => (String.ofList s, rest)
  | rest => .error (mismatch wanted rest)

/-- A string. -/
def readString : Reader String := readStringAs "a string"

/-- A value, or `null` in its place. -/
def readNullable {α : Type} (read : Reader α) : Reader (Option α) := fun cs =>
  match skipSpace cs with
  | 'n' :: rest => (skipWord ['u', 'l', 'l'] rest).map (none, ·)
  | rest => (read rest).map fun (a, rest) => (some a, rest)

/-- A whole number of 32 bits without sign. -/
def readWord : Reader UInt32 := fun cs =>
  match skipSpace cs with
  | [] => .error .cutShort
  | c :: rest =>
    if c = '-' || isDigit c then do
      match ← readNumber (c :: rest) with
      | (.whole i, rest) =>
        if 0 ≤ i ∧ i < UInt32.size then .ok (UInt32.ofNat i.toNat, rest)
        else .error (.outOfRange i "u32")
      | (.float x, _) => .error (.wrongType (.float x) "u32")
    else .error (mismatch "u32" (c :: rest))

/-- The value of a whole document: nothing but blanks may follow it. -/
def readDocument {α : Type} (read : Reader α) (document : String) : Except Problem α :=
  match read document.toList with
  | .ok (a, rest) => if skipSpace rest = [] then .ok a else .error .malformed
  | .error p => .error p

end Vdom.Json
