/-!
# Quoted text — a string as a JSON literal

* **`escape`** — how one character is written between the quotes.
* **`encode`** — a quote, the escaped characters, a quote.

Nothing below the space survives unescaped, so a literal never breaks a line, and a quote inside
is always behind a backslash, so a reader knows where the literal ends without looking further.
-/

namespace Vdom.Text.Quoted

/-- The characters that stand for `c` inside a literal: short escapes where JSON has one, four
    hexadecimal digits for the other control characters, and `c` itself for all else. -/
def escape (c : Char) : List Char :=
  if c = '\\' then ['\\', '\\']
  else if c = '"' then ['\\', '"']
  else if c = '\n' then ['\\', 'n']
  else if c = '\r' then ['\\', 'r']
  else if c = '\t' then ['\\', 't']
  else if c = '\x08' then ['\\', 'b']
  else if c = '\x0c' then ['\\', 'f']
  else if c.toNat < 0x20 then
    ['\\', 'u', '0', '0', Nat.digitChar (c.toNat / 16), Nat.digitChar (c.toNat % 16)]
  else [c]

/-- The literal of a list of characters. -/
def encode (cs : List Char) : List Char :=
  '"' :: (cs.flatMap escape ++ ['"'])

end Vdom.Text.Quoted

namespace Vdom

/-- The JSON literal of a string. -/
def quote (s : String) : String :=
  String.ofList (Text.Quoted.encode s.toList)

end Vdom
