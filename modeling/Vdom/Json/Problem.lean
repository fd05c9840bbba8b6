import Vdom.Binary64
import Vdom.Decimal.Notation
import Vdom.Shape.Spelling
import Vdom.Text.Shown
/-!
# Problems — why a document cannot be read

A document is read from left to right and the first problem is the answer. Either the text is no
JSON, or it ends too early, or it is JSON that does not fit what is wanted.
-/

namespace Vdom.Json

/-- What stands where something else is wanted. -/
inductive Found where
  | whole (i : Int)
  | float (x : Binary64)
  | bool (b : Bool)
  | text (s : String)
  | null
  | sequence
  | map
  deriving DecidableEq, Repr

/-- The first problem of a document. -/
inductive Problem where
  /-- The text is not JSON. -/
  | malformed
  /-- The text ends inside a value, or before one. -/
  | cutShort
  | wrongType (found : Found) (wanted : String)
  | outOfRange (i : Int) (wanted : String)
  | missingField (name : String)
  | duplicateField (name : String)
  | wrongLength (length : Nat) (wanted : String)
  | unknownVariant (name : String) (known : List String)
  | misspelled (m : Shape.Misspelling)
  deriving DecidableEq, Repr

/-- Ties go to the even digit, whole numbers keep a decimal, and sixteen digits may stand before
    the point or four zeros after it. -/
def floatLayout : Decimal.Layout :=
  { tie := .even, widest := 16, deepest := -5, wholeMark := ['.', '0'] }

/-- The text of a finite number in a message. -/
def floatText (x : Binary64) : String :=
  let sign := if x.negative then ['-'] else []
  let body := if x.isZero then ['0', '.', '0'] else floatLayout.write x
  String.ofList (sign ++ body)

/-- Text in the quotation marks that messages put around code. -/
def ticked (s : String) : String := "\x60" ++ s ++ "\x60"

/-- The wording of what was found. -/
def Found.wording : Found → String
  | .whole i => "integer " ++ ticked (toString i)
  | .float x => "floating point " ++ ticked (floatText x)
  | .bool b => "boolean " ++ ticked (if b then "true" else "false")
  | .text s => "string " ++ Text.shown s
  | .null => "null"
  | .sequence => "sequence"
  | .map => "map"

/-- The wording of a problem. -/
def Problem.message : Problem → String
  | .malformed => "syntax error"
  | .cutShort => "unexpected end"
  | .wrongType found wanted => "invalid type: " ++ found.wording ++ ", expected " ++ wanted
  | .outOfRange i wanted =>
    "invalid value: integer " ++ ticked (toString i) ++ ", expected " ++ wanted
  | .missingField name => "missing field " ++ ticked name
  | .duplicateField name => "duplicate field " ++ ticked name
  | .wrongLength length wanted =>
    "invalid length " ++ toString length ++ ", expected " ++ wanted
  | .unknownVariant name known =>
    "unknown variant " ++ ticked name ++ ", expected one of " ++
      Text.join ", " (known.map ticked)
  | .misspelled m => m.message

end Vdom.Json
