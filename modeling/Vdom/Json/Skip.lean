import Vdom.Json.Number
/-!
# Skipping — values that nobody asks for

A value without a taker must still be well formed. Its brackets are kept on a stack of their own,
so they may be nested to any depth; its numbers may have any size and its strings may hold lone
surrogate halves.
-/

namespace Vdom.Json

/-- An open bracket. -/
inductive Bracket where
  | array
  | object
  deriving DecidableEq, Repr

/-- What comes next: a value, or what follows one. -/
inductive Due where
  | value
  | next
  deriving DecidableEq, Repr

/-- The text after a value without brackets. -/
def skipScalar : List Char → Except Problem (List Char)
  | [] => .error .cutShort
  | 'n' :: rest => skipWord ['u', 'l', 'l'] rest
  | 't' :: rest => skipWord ['r', 'u', 'e'] rest
  | 'f' :: rest => skipWord ['a', 'l', 's', 'e'] rest
  | '"' :: rest => skipText rest
  | c :: rest =>
    if c = '-' || isDigit c then (readNumeral .malformed (c :: rest)).map Prod.snd
    else .error .malformed

/-- The text after a key and its colon. -/
def skipKey (cs : List Char) : Except Problem (List Char) :=
  match skipSpace cs with
  | [] => .error .cutShort
  | '"' :: rest => skipText rest >>= skipColon
  | _ => .error .malformed

/-- The text after the value that is due and all values around it, whose brackets are `stack`.
    `fuel` bounds the number of tokens. -/
def skipTokens (fuel : Nat) (due : Due) (stack : List Bracket) (cs : List Char) :
    Except Problem (List Char) :=
  match fuel, due, stack with
  | _, .next, [] => .ok cs
  | 0, _, _ => .error .malformed
  | fuel + 1, .value, stack =>
    match skipSpace cs with
    | '[' :: rest =>
      match skipSpace rest with
      | [] => .error .cutShort
      | ']' :: rest => skipTokens fuel .next stack rest
      | rest => skipTokens fuel .value (.array :: stack) rest
    | '\x7b' :: rest =>
      match skipSpace rest with
      | '\x7d' :: rest => skipTokens fuel .next stack rest
      | rest =>
        match skipKey rest with
        | .ok rest => skipTokens fuel .value (.object :: stack) rest
        | .error p => .error p
    | rest =>
      match skipScalar rest with
      | .ok rest => skipTokens fuel .next stack rest
      | .error p => .error p
  | fuel + 1, .next, .array :: stack =>
    match skipSpace cs with
    | [] => .error .cutShort
    | ',' :: rest => skipTokens fuel .value (.array :: stack) rest
    | ']' :: rest => skipTokens fuel .next stack rest
    | _ => .error .malformed
  | fuel + 1, .next, .object :: stack =>
    match skipSpace cs with
    | [] => .error .cutShort
    | ',' :: rest =>
      match skipKey rest with
      | .ok rest => skipTokens fuel .value (.object :: stack) rest
      | .error p => .error p
    | '\x7d' :: rest => skipTokens fuel .next stack rest
    | _ => .error .malformed

/-- Blanks before a value that is due do not matter. -/
theorem skipTokens_congr (fuel : Nat) (stack : List Bracket) {cs ds : List Char}
    (same : skipSpace cs = skipSpace ds) :
    skipTokens fuel .value stack cs = skipTokens fuel .value stack ds := by
  cases fuel with
  | zero => rfl
  | succ fuel => simp only [skipTokens, same]

/-- The text after the value at its front. Every token has a character, so the length of the text
    bounds their number. -/
def skipValue (cs : List Char) : Except Problem (List Char) :=
  skipTokens (cs.length + 1) .value [] cs

end Vdom.Json
