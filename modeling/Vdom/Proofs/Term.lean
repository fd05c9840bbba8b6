import Vdom.Text.Quoted
/-!
# Terms — what generated code stands for

A term forgets how code was come by: where nodes stand, which kind of node they are, what was
parsed inside an element. What is left is the expression itself.

* **`Leaf`** — a string literal or a word.
* **`Term`** — leaves, calls with optional props and children, arrays, and objects whose keys are
  quoted or computed.
* **`Term.print`** — the one layout in which a term is written.
* **`Alphabet`** — the characters that words are made of.
* **`Term.Spelled`** — every word of a term is a word: not empty, in the alphabet, and not the
  `null` that fills gaps.
-/

namespace Vdom.Emit

/-- A string literal, or a word of code. -/
inductive Leaf where
  | literal (text : String)
  | word (text : String)
  deriving DecidableEq, Repr

mutual

/-- An expression. -/
inductive Term where
  | leaf (l : Leaf)
  /-- A call that makes a node, with a tag, props and children. -/
  | call (tag : Leaf) (props content : Option Term)
  | array (items : List Term)
  | object (entries : List Entry)

/-- An entry of an object; a literal key is quoted and a word is computed. -/
inductive Entry where
  | mk (key : Leaf) (value : Term)

end

/-! ## Layout -/

/-- The word that fills a gap between arguments. -/
def Leaf.gap : Leaf := .word "null"

/-- A leaf as it is written. -/
def Leaf.print : Leaf → List Char
  | .literal text => Text.Quoted.encode text.toList
  | .word text => text.toList

/-- A leaf as it is written in front of a value. -/
def Leaf.printKey : Leaf → List Char
  | .literal text => Text.Quoted.encode text.toList
  | .word text => '[' :: (text.toList ++ [']'])

mutual

/-- A term as it is written. -/
def Term.print : Term → List Char
  | .leaf l => l.print
  | .call tag none none => 'h' :: '(' :: (tag.print ++ [')'])
  | .call tag (some props) none =>
    'h' :: '(' :: (tag.print ++ (',' :: ' ' :: (props.print ++ [')'])))
  | .call tag none (some content) =>
    'h' :: '(' :: (tag.print ++ (',' :: ' ' :: (Leaf.gap.print ++
      (',' :: ' ' :: (content.print ++ [')'])))))
  | .call tag (some props) (some content) =>
    'h' :: '(' :: (tag.print ++ (',' :: ' ' :: (props.print ++
      (',' :: ' ' :: (content.print ++ [')'])))))
  | .array [] => ['[', ']']
  | .array (first :: rest) => '[' :: (first.print ++ (printMore rest ++ [']']))
  | .object [] => ['\x7b', '\x7d']
  | .object (first :: rest) =>
    '\x7b' :: ' ' :: (first.print ++ (printMoreEntries rest ++ [' ', '\x7d']))

/-- Further items of an array, each behind a comma. -/
def printMore : List Term → List Char
  | [] => []
  | item :: rest => ',' :: ' ' :: (item.print ++ printMore rest)

/-- An entry: key, colon, value. -/
def Entry.print : Entry → List Char
  | .mk key value => key.printKey ++ (':' :: ' ' :: value.print)

/-- Further entries of an object, each behind a comma. -/
def printMoreEntries : List Entry → List Char
  | [] => []
  | entry :: rest => ',' :: ' ' :: (entry.print ++ printMoreEntries rest)

end

/-! ## Words -/

/-- The characters that stand between words. -/
def delimiters : List Char := ['"', '(', ')', '[', ']', '\x7b', '\x7d', ',', ':', ' ']

/-- Whether a character is a letter or digit of ASCII, `_`, `$` or `.`. -/
def isOrdinary (c : Char) : Bool := c.isAlphanum || c == '_' || c == '$' || c == '.'

/-- The characters of words: all ordinary ones and no delimiter. Which letters there are beyond
    ASCII is left open. -/
structure Alphabet where
  contains : Char → Bool
  ordinary : ∀ c, isOrdinary c = true → contains c = true
  apart : ∀ c ∈ delimiters, contains c = false

/-- No ordinary character is a delimiter. -/
theorem ordinary_apart : delimiters.any isOrdinary = false := by decide

namespace Alphabet

/-- Words of ASCII only. -/
def ascii : Alphabet where
  contains := isOrdinary
  ordinary _ h := h
  apart c hc := Bool.eq_false_iff.mpr (List.any_eq_false.mp ordinary_apart c hc)

/-- Whether a text does not go on with the word in front of it. -/
def Ends (A : Alphabet) (rest : List Char) : Prop :=
  ∀ c ∈ rest.head?, A.contains c = false

/-- Whether a text neither goes on with the word in front of it nor makes a call of it. -/
def Stops (A : Alphabet) (rest : List Char) : Prop :=
  A.Ends rest ∧ rest.head? ≠ some '('

theorem ends_cons (A : Alphabet) {c : Char} (rest : List Char) (delimiter : c ∈ delimiters) :
    A.Ends (c :: rest) := by
  intro d h
  rw [List.head?_cons, Option.mem_some_iff] at h
  subst h
  exact A.apart c delimiter

/-- Every delimiter stops a leaf, apart from the bracket that makes a call of it. -/
theorem stops_cons (A : Alphabet) {c : Char} (rest : List Char) (delimiter : c ∈ delimiters)
    (call : c ≠ '(') : A.Stops (c :: rest) :=
  ⟨A.ends_cons rest delimiter, fun h => call (Option.some.inj h)⟩

theorem stops_comma (A : Alphabet) (rest : List Char) : A.Stops (',' :: rest) :=
  A.stops_cons rest (by decide) (by decide)

theorem stops_blank (A : Alphabet) (rest : List Char) : A.Stops (' ' :: rest) :=
  A.stops_cons rest (by decide) (by decide)

theorem stops_round (A : Alphabet) (rest : List Char) : A.Stops (')' :: rest) :=
  A.stops_cons rest (by decide) (by decide)

theorem stops_square (A : Alphabet) (rest : List Char) : A.Stops (']' :: rest) :=
  A.stops_cons rest (by decide) (by decide)

end Alphabet

/-- Whether a text is a word: not empty and in the alphabet. -/
def Alphabet.Word (A : Alphabet) (text : String) : Prop :=
  text ≠ "" ∧ ∀ c ∈ text.toList, A.contains c = true

/-- Whether the word of a leaf is one. -/
def Leaf.Legible (A : Alphabet) : Leaf → Prop
  | .literal _ => True
  | .word text => A.Word text

/-- Whether the word of a leaf is one and does not fill gaps. -/
def Leaf.Spelled (A : Alphabet) (l : Leaf) : Prop := l.Legible A ∧ l ≠ .gap

instance (A : Alphabet) (text : String) : Decidable (A.Word text) :=
  decidable_of_iff (text ≠ "" ∧ text.toList.all A.contains = true) (by rw [List.all_eq_true]; rfl)

instance (A : Alphabet) : (l : Leaf) → Decidable (l.Legible A)
  | .literal _ => .isTrue trivial
  | .word text => inferInstanceAs (Decidable (A.Word text))

instance (A : Alphabet) (l : Leaf) : Decidable (l.Spelled A) :=
  inferInstanceAs (Decidable (l.Legible A ∧ l ≠ .gap))

mutual

/-- Whether every word of a term is one. -/
def Term.Spelled (A : Alphabet) : Term → Prop
  | .leaf l => l.Spelled A
  | .call tag props content => tag.Spelled A ∧ SpelledSlot A props ∧ SpelledSlot A content
  | .array items => SpelledAll A items
  | .object entries => SpelledEntries A entries

/-- Whether every word of an argument is one, if there is one. -/
def SpelledSlot (A : Alphabet) : Option Term → Prop
  | none => True
  | some t => t.Spelled A

/-- Whether every word of the items of an array is one. -/
def SpelledAll (A : Alphabet) : List Term → Prop
  | [] => True
  | item :: rest => item.Spelled A ∧ SpelledAll A rest

/-- Whether every word of an entry is one. -/
def Entry.Spelled (A : Alphabet) : Entry → Prop
  | .mk key value => key.Spelled A ∧ value.Spelled A

/-- Whether every word of the entries of an object is one. -/
def SpelledEntries (A : Alphabet) : List Entry → Prop
  | [] => True
  | entry :: rest => entry.Spelled A ∧ SpelledEntries A rest

end

end Vdom.Emit
