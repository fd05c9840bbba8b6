import Vdom.Shape
import Vdom.Text.Blank
import Vdom.Text.Hex
import Vdom.Text.Parts
/-!
# Spelling of shapes — names joined by bars

A shape is spelled by the names of its bits in a fixed order, then the bits without a name in
hexadecimal, with bars between them; a shape without bits is the empty text. Reading takes the
parts in any order, with blanks around them.
-/

namespace Vdom.Shape

/-- The named bits in the order in which they are written. -/
def names : List (String × Shape) :=
  [("ELEMENT", element), ("COMPONENT", component), ("TEXT_CHILDREN", textChildren),
    ("ARRAY_CHILDREN", arrayChildren), ("SLOTS_CHILDREN", slotsChildren)]

/-- The bits without a name as the last part of a spelling, if there are any. -/
def unnamedPart (a : Shape) : List String :=
  let rest := a.diff knownMask
  if rest.isEmpty then [] else [String.ofList ('0' :: 'x' :: Text.Hex.write rest.bits)]

/-- The parts that spell a shape. -/
def parts (a : Shape) : List String :=
  (names.filter fun entry => a.contains entry.2).map Prod.fst ++ a.unnamedPart

/-- The spelling of a shape. -/
def spell (a : Shape) : String :=
  Text.join " | " a.parts

/-- Why a text spells no shape. -/
inductive Misspelling where
  | emptyPart
  | badHex
  | unknownName
  deriving DecidableEq, Repr

/-- The wording of a misspelling. -/
def Misspelling.message : Misspelling → String
  | .emptyPart => "encountered empty flag"
  | .badHex => "invalid hex flag"
  | .unknownName => "unrecognized named flag"

/-- The shape of one part, blanks removed. -/
def readPart : List Char → Except Misspelling Shape
  | [] => .error .emptyPart
  | '0' :: 'x' :: digits =>
    match Text.Hex.read? digits with
    | some bits => .ok ⟨bits⟩
    | none => .error .badHex
  | name =>
    match names.lookup (String.ofList name) with
    | some a => .ok a
    | none => .error .unknownName

/-- The union of `acc` and the shapes of the parts, the first misspelled part winning. -/
def readParts (acc : Shape) : List (List Char) → Except Misspelling Shape
  | [] => .ok acc
  | part :: rest =>
    match readPart (Text.trim part) with
    | .ok a => readParts (acc.union a) rest
    | .error e => .error e

/-- The shape that a text spells. A blank text spells the empty shape. -/
def read (s : String) : Except Misspelling Shape :=
  match Text.trim s.toList with
  | [] => .ok empty
  | _ :: _ => readParts empty (Text.splitAt '|' s.toList)

end Vdom.Shape
