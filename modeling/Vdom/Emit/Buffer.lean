import Vdom.Emit.Fault
import Vdom.Emit.Options
import Vdom.Helper.Usage
import Vdom.Source.Span
/-!
# Buffers — code as it is written

* **`Cursor`** — the place of the next character, kept while characters are appended.
* **`Piece`** — what a writer appends: code, a mark that ties the next character to the template,
  or the use of a helper.
* **`Buffer`** — the code so far with its cursor, indentation, used helpers and mappings.

Marks are recorded only when the options ask for mappings, so a writer need not look at them.
-/

namespace Vdom.Emit

/-- A place in the code: bytes from the start, line and column from one. -/
structure Cursor where
  offset : Nat
  line : Nat
  column : Nat
  deriving DecidableEq, Repr

namespace Cursor

/-- The place of the first character. -/
def start : Cursor := ⟨0, 1, 1⟩

/-- The place after one more character. -/
def step (p : Cursor) (c : Char) : Cursor :=
  if c = '\n' then ⟨p.offset + c.utf8Size, p.line + 1, 1⟩
  else ⟨p.offset + c.utf8Size, p.line, p.column + 1⟩

/-- The place after a text. -/
def advance (p : Cursor) (s : String) : Cursor :=
  s.toList.foldl step p

@[simp] theorem advance_empty (p : Cursor) : p.advance "" = p := rfl

/-- Where a text is cut does not matter for the place after it. -/
@[simp] theorem advance_append (p : Cursor) (s t : String) :
    p.advance (s ++ t) = (p.advance s).advance t := by
  rw [advance, String.toList_append, List.foldl_append]
  rfl

end Cursor

/-- A place of the code and the place of the template that it stands for. -/
structure Mapping where
  generated : Cursor
  origin : Position
  deriving DecidableEq, Repr

/-- What a writer appends. -/
inductive Piece where
  | code (text : String)
  | mark (origin : Position)
  | use (helper : Helper)
  deriving DecidableEq, Repr

namespace Piece

/-- Code that stands for a span of the template, marked unless the span is a stub. -/
def spanned (text : String) (span : Span) : List Piece :=
  if span.isStub then [.code text] else [.mark span.start, .code text]

end Piece

/-- Code in the making. -/
structure Buffer where
  code : String
  cursor : Cursor
  depth : Nat
  options : Options
  used : Helper.Usage
  mappings : List Mapping

namespace Buffer

/-- No code yet. -/
def empty (options : Options) : Buffer :=
  { code := "", cursor := .start, depth := 0, options, used := .empty, mappings := [] }

/-- Append code. -/
def put (b : Buffer) (text : String) : Buffer :=
  { b with code := b.code ++ text, cursor := b.cursor.advance text }

/-- Record that the next character stands for a place of the template, if mappings are wanted. -/
def mark (b : Buffer) (origin : Position) : Buffer :=
  if b.options.sourceMap then { b with mappings := b.mappings ++ [⟨b.cursor, origin⟩] } else b

/-- Record the use of a helper. -/
def use (b : Buffer) (helper : Helper) : Buffer :=
  { b with used := b.used.insert helper }

/-- Append one piece. -/
def add (b : Buffer) : Piece → Buffer
  | .code text => b.put text
  | .mark origin => b.mark origin
  | .use helper => b.use helper

/-- Append pieces in order. -/
def addAll (b : Buffer) (pieces : List Piece) : Buffer :=
  pieces.foldl add b

@[simp] theorem addAll_nil (b : Buffer) : b.addAll [] = b := rfl

@[simp] theorem addAll_cons (b : Buffer) (p : Piece) (ps : List Piece) :
    b.addAll (p :: ps) = (b.add p).addAll ps := rfl

@[simp] theorem addAll_append (b : Buffer) (ps qs : List Piece) :
    b.addAll (ps ++ qs) = (b.addAll ps).addAll qs :=
  List.foldl_append

/-- A line break and two spaces for every level of indentation. -/
def lineBreak (depth : Nat) : String :=
  String.ofList ('\n' :: List.replicate (2 * depth) ' ')

/-- Start a new line. -/
def breakLine (b : Buffer) : Buffer :=
  b.put (lineBreak b.depth)

/-- Start a new line one level deeper. -/
def indent (b : Buffer) : Buffer :=
  { b with depth := b.depth + 1 }.breakLine

/-- Go back one level, on a new line unless the line is kept. -/
def dedent (b : Buffer) (keepLine : Bool) : Except Fault Buffer :=
  match b.depth with
  | 0 => .error .unindented
  | depth + 1 =>
    let back := { b with depth }
    .ok (if keepLine then back else back.breakLine)

/-- The name of a helper, its use recorded. -/
def resolve (b : Buffer) (registry : Registry) (h : Helper) : Except Fault (String × Buffer) :=
  match registry.resolve h with
  | .ok name => .ok (name, b.use h)
  | .error fault => .error fault

end Buffer

/-- A step of a writer. -/
inductive Step where
  | put (text : String)
  | putSpan (text : String) (span : Span)
  | breakLine
  | indent
  | dedent (keepLine : Bool)
  | resolve (helper : Helper)

/-- The buffer after a step, or the fault that leaves it as it is. -/
def Buffer.step (registry : Registry) (b : Buffer) : Step → Except Fault Buffer
  | .put text => .ok (b.put text)
  | .putSpan text span => .ok (b.addAll (Piece.spanned text span))
  | .breakLine => .ok b.breakLine
  | .indent => .ok b.indent
  | .dedent keepLine => b.dedent keepLine
  | .resolve helper => (b.resolve registry helper).map Prod.snd

end Vdom.Emit
