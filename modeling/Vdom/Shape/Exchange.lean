import Vdom.Json.Read
import Vdom.Text.Quoted
/-!
# Exchange of shapes

A shape is written as a string that holds its spelling.
-/

namespace Vdom.Shape

/-- A shape. -/
def readJson : Json.Reader Shape := fun cs => do
  let (s, rest) ← Json.readStringAs "a string value of \x60|\x60 separated flags" cs
  match Shape.read s with
  | .ok a => .ok (a, rest)
  | .error m => .error (.misspelled m)

/-- The written form of a shape. -/
def writeJson (a : Shape) : String := quote a.spell

end Vdom.Shape
