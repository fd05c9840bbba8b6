import Vdom.Json.Number
/-!
# The grammar of documents — which texts are JSON, and what they say

What a reader does with a text is one thing, what the text says is another. Here the second is laid
down as relations between values and texts, with one rule for each way of writing, so that every
choice of blanks, escapes and order of members is covered.

* **`Points`** — text as JSON has it: code points, among which halves of surrogate pairs may stand
  alone. A `String` has none of those.
* **`Tree`** — a value. Numbers are kept as they are spelled.
* **`Spells`**, **`Spelled`** — the inside of a literal, and a number.
* **`Written`** — a text that says a value, without blanks around it; **`Entry`** has them.
* **`Tree.WrittenAs`** — a whole document that says a value.
-/

namespace Vdom.Json

/-! ## Values -/

/-- A text as code points, halves of surrogate pairs among them. -/
abbrev Points := List Nat

/-- The code points of a string. -/
def points (s : String) : Points := s.toList.map Char.toNat

/-- A value that a document says. -/
inductive Tree where
  | null
  | bool (b : Bool)
  /-- A number as it is spelled. -/
  | number (numeral : List Char)
  | text (ps : Points)
  | array (entries : List Tree)
  | object (members : List (Points × Tree))

/-- Members of an object, name by name. -/
abbrev Members := List (Points × Tree)

/-! ## Blanks and literals -/

/-- Characters that may stand between tokens. -/
def Blank (cs : List Char) : Prop := ∀ c ∈ cs, c ∈ [' ', '\t', '\n', '\r']

/-- The letters that stand for a character after a backslash. -/
def shortEscapes : List (Char × Char) :=
  [('"', '"'), ('\\', '\\'), ('/', '/'), ('b', '\x08'), ('f', '\x0c'), ('n', '\n'), ('r', '\r'),
    ('t', '\t')]

/-- The inside of a literal that says a text. Two escaped halves in a row are one code point. -/
inductive Spells : Points → List Char → Prop where
  | done : Spells [] []
  | plain {c : Char} {ps : Points} {cs : List Char} :
      c ≠ '"' → c ≠ '\\' → 0x20 ≤ c.toNat → Spells ps cs → Spells (c.toNat :: ps) (c :: cs)
  | short {letter c : Char} {ps : Points} {cs : List Char} :
      (letter, c) ∈ shortEscapes → Spells ps cs → Spells (c.toNat :: ps) ('\\' :: letter :: cs)
  | unit {a b c d : Char} {n : Nat} {ps : Points} {cs : List Char} :
      hexWord? a b c d = some n → isHighHalf n = false → isLowHalf n = false → Spells ps cs →
      Spells (n :: ps) ('\\' :: 'u' :: a :: b :: c :: d :: cs)
  | pair {a b c d e f g h : Char} {n m : Nat} {ps : Points} {cs : List Char} :
      hexWord? a b c d = some n → isHighHalf n = true →
      hexWord? e f g h = some m → isLowHalf m = true → Spells ps cs →
      Spells ((0x10000 + (n - 0xd800) * 0x400 + (m - 0xdc00)) :: ps)
        ('\\' :: 'u' :: a :: b :: c :: d :: '\\' :: 'u' :: e :: f :: g :: h :: cs)
  /-- A half that belongs to no pair. -/
  | half {a b c d : Char} {n : Nat} {ps : Points} {cs : List Char} :
      hexWord? a b c d = some n → isHighHalf n = true ∨ isLowHalf n = true →
      (isHighHalf n = true → ∀ m ∈ ps.head?, isLowHalf m = false) → Spells ps cs →
      Spells (n :: ps) ('\\' :: 'u' :: a :: b :: c :: d :: cs)

/-! ## Numbers -/

/-- Decimal digits, at least one. -/
def Digits (cs : List Char) : Prop := cs ≠ [] ∧ ∀ c ∈ cs, isDigit c = true

/-- The digits before the point: a zero alone, or digits that start with no zero. -/
def Whole (cs : List Char) : Prop := Digits cs ∧ (cs.head? = some '0' → cs = ['0'])

/-- The point and the digits behind it, if there are any. -/
inductive Fraction : List Char → Prop where
  | none : Fraction []
  | some {cs : List Char} : Digits cs → Fraction ('.' :: cs)

/-- The exponent, if there is one. -/
inductive Exponent : List Char → Prop where
  | none : Exponent []
  | unsigned {letter : Char} {cs : List Char} :
      letter ∈ ['e', 'E'] → Digits cs → Exponent (letter :: cs)
  | signed {letter sign : Char} {cs : List Char} :
      letter ∈ ['e', 'E'] → sign ∈ ['+', '-'] → Digits cs → Exponent (letter :: sign :: cs)

/-- A number without its sign. -/
inductive Unsigned : List Char → Prop where
  | mk {whole fraction exponent : List Char} :
      Whole whole → Fraction fraction → Exponent exponent →
      Unsigned (whole ++ (fraction ++ exponent))

/-- A number as it is spelled. -/
inductive Spelled : List Char → Prop where
  | positive {cs : List Char} : Unsigned cs → Spelled cs
  | negative {cs : List Char} : Unsigned cs → Spelled ('-' :: cs)

/-! ## Documents -/

mutual

/-- A text that says a value and nothing more. -/
inductive Written : Tree → List Char → Prop where
  | null : Written .null ['n', 'u', 'l', 'l']
  | yes : Written (.bool true) ['t', 'r', 'u', 'e']
  | no : Written (.bool false) ['f', 'a', 'l', 's', 'e']
  | number {cs : List Char} : Spelled cs → Written (.number cs) cs
  | text {ps : Points} {cs : List Char} :
      Spells ps cs → Written (.text ps) ('"' :: (cs ++ ['"']))
  | noEntries {blank : List Char} :
      Blank blank → Written (.array []) ('[' :: (blank ++ [']']))
  | array {entries : List Tree} {cs : List Char} :
      Entries entries cs → Written (.array entries) ('[' :: (cs ++ [']']))
  | noMembers {blank : List Char} :
      Blank blank → Written (.object []) ('\x7b' :: (blank ++ ['\x7d']))
  | object {members : Members} {cs : List Char} :
      MemberList members cs → Written (.object members) ('\x7b' :: (cs ++ ['\x7d']))

/-- A value with blanks around it. -/
inductive Entry : Tree → List Char → Prop where
  | mk {t : Tree} {before cs after : List Char} :
      Blank before → Written t cs → Blank after → Entry t (before ++ (cs ++ after))

/-- Entries with commas between them. -/
inductive Entries : List Tree → List Char → Prop where
  | last {t : Tree} {cs : List Char} : Entry t cs → Entries [t] cs
  | more {t : Tree} {cs : List Char} {entries : List Tree} {rest : List Char} :
      Entry t cs → Entries entries rest → Entries (t :: entries) (cs ++ ',' :: rest)

/-- A name and its value, with blanks around both. -/
inductive Member : Points × Tree → List Char → Prop where
  | mk {name : Points} {key : List Char} {t : Tree} {before after cs : List Char} :
      Blank before → Spells name key → Blank after → Entry t cs →
      Member (name, t) (before ++ '"' :: (key ++ '"' :: (after ++ ':' :: cs)))

/-- Members with commas between them. -/
inductive MemberList : Members → List Char → Prop where
  | last {m : Points × Tree} {cs : List Char} : Member m cs → MemberList [m] cs
  | more {m : Points × Tree} {cs : List Char} {members : Members} {rest : List Char} :
      Member m cs → MemberList members rest → MemberList (m :: members) (cs ++ ',' :: rest)

end

/-- A whole document says a value. -/
def Tree.WrittenAs (t : Tree) (document : String) : Prop := Entry t document.toList

/-! ## Parts of a value -/

/-- The member of an object with a name, if the value is an object that has one. -/
def Tree.member? (t : Tree) (name : String) : Option Tree :=
  match t with
  | .object members => members.lookup (points name)
  | _ => none

/-- The value that a path of names leads to. -/
def Tree.at? (t : Tree) : List String → Option Tree
  | [] => some t
  | name :: path => (t.member? name).bind (·.at? path)

end Vdom.Json
