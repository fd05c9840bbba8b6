import Vdom.Json.Problem
/-!
# Scanning — blanks, words and string literals

A reader takes the text and yields a value with the text that follows it, or the first problem.
-/

namespace Vdom.Json

/-- What reads a value at the front of a text and leaves the rest. -/
abbrev Reader (α : Type) := List Char → Except Problem (α × List Char)

/-- The four characters that may stand between tokens. -/
def isSpace (c : Char) : Bool :=
  c = ' ' || c = '\t' || c = '\n' || c = '\r'

/-- The text after the blanks at its front. -/
def skipSpace (cs : List Char) : List Char :=
  cs.dropWhile isSpace

/-- The text after the letters of a word, which must be at its front. -/
def skipWord : List Char → List Char → Except Problem (List Char)
  | [], rest => .ok rest
  | _ :: _, [] => .error .cutShort
  | w :: word, c :: rest => if c = w then skipWord word rest else .error .malformed

/-! ## String literals -/

/-- The number that four hexadecimal digits spell. -/
def hexWord? (a b c d : Char) : Option Nat :=
  Text.Hex.readDigits? 0 [a, b, c, d]

/-- The problem of a text that should start with four hexadecimal digits: too short if it has
    fewer than four bytes. -/
def hexProblem (cs : List Char) : Problem :=
  if cs.foldl (fun bytes c => bytes + c.utf8Size) 0 < 4 then .cutShort else .malformed

/-- The character that a letter stands for after a backslash. -/
def shortEscape? (c : Char) : Option Char :=
  if c = '"' then some '"'
  else if c = '\\' then some '\\'
  else if c = '/' then some '/'
  else if c = 'b' then some '\x08'
  else if c = 'f' then some '\x0c'
  else if c = 'n' then some '\n'
  else if c = 'r' then some '\r'
  else if c = 't' then some '\t'
  else none

/-- Whether a number is the first half of a surrogate pair. -/
def isHighHalf (n : Nat) : Bool := 0xd800 ≤ n && n < 0xdc00

/-- Whether a number is the second half of a surrogate pair. -/
def isLowHalf (n : Nat) : Bool := 0xdc00 ≤ n && n < 0xe000

/-- The character of a surrogate pair. -/
def joinHalves (high low : Nat) : Char :=
  Char.ofNat (0x10000 + (high - 0xd800) * 0x400 + (low - 0xdc00))

/-- A character in front of what a reader yields. -/
def consRead (c : Char) : Except Problem (List Char × List Char) →
    Except Problem (List Char × List Char)
  | .ok (cs, rest) => .ok (c :: cs, rest)
  | .error p => .error p

/-- The text of a literal whose opening quote has been read. Surrogate halves come in pairs. -/
def readText : Reader (List Char)
  | [] => .error .cutShort
  | '"' :: rest => .ok ([], rest)
  | ['\\'] => .error .cutShort
  | '\\' :: 'u' :: a :: b :: c :: d :: rest =>
    match hexWord? a b c d with
    | none => .error .malformed
    | some n =>
      if isLowHalf n then .error .malformed
      else if isHighHalf n then
        match rest with
        | '\\' :: 'u' :: e :: f :: g :: h :: rest =>
          match hexWord? e f g h with
          | none => .error .malformed
          | some m =>
            if isLowHalf m then consRead (joinHalves n m) (readText rest) else .error .malformed
        | '\\' :: 'u' :: rest => .error (hexProblem rest)
        | ['\\'] => .error .cutShort
        | [] => .error .cutShort
        | _ => .error .malformed
      else consRead (Char.ofNat n) (readText rest)
  | '\\' :: 'u' :: rest => .error (hexProblem rest)
  | '\\' :: c :: rest =>
    match shortEscape? c with
    | some e => consRead e (readText rest)
    | none => .error .malformed
  | c :: rest => if c.toNat < 0x20 then .error .malformed else consRead c (readText rest)

/-- The text after a literal whose opening quote has been read. Surrogate halves may stand
    alone. -/
def skipText : List Char → Except Problem (List Char)
  | [] => .error .cutShort
  | '"' :: rest => .ok rest
  | ['\\'] => .error .cutShort
  | '\\' :: 'u' :: a :: b :: c :: d :: rest =>
    match hexWord? a b c d with
    | none => .error .malformed
    | some _ => skipText rest
  | '\\' :: 'u' :: rest => .error (hexProblem rest)
  | '\\' :: c :: rest =>
    match shortEscape? c with
    | some _ => skipText rest
    | none => .error .malformed
  | c :: rest => if c.toNat < 0x20 then .error .malformed else skipText rest

/-- A character without a meaning of its own is read as it stands. -/
theorem readText_plain {c : Char} {rest : List Char} (quote : c ≠ '"') (backslash : c ≠ '\\')
    (printable : 0x20 ≤ c.toNat) : readText (c :: rest) = consRead c (readText rest) := by
  rw [readText, if_neg (Nat.not_lt.mpr printable)]
  · exact quote
  all_goals intros; exact backslash ‹c = '\\'›

theorem skipText_plain {c : Char} {rest : List Char} (quote : c ≠ '"') (backslash : c ≠ '\\')
    (printable : 0x20 ≤ c.toNat) : skipText (c :: rest) = skipText rest := by
  rw [skipText, if_neg (Nat.not_lt.mpr printable)]
  · exact quote
  all_goals intros; exact backslash ‹c = '\\'›

/-- The text after a colon and the blanks before it. -/
def skipColon (cs : List Char) : Except Problem (List Char) :=
  match skipSpace cs with
  | [] => .error .cutShort
  | ':' :: rest => .ok rest
  | _ => .error .malformed

end Vdom.Json
