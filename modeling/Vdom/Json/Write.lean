import Vdom.Text.Parts
import Vdom.Text.Quoted
/-!
# Writing — compact documents

Members and entries follow one another without blanks; strings are quoted literals.
-/

namespace Vdom.Json

/-- A member of an object, its value already written. -/
def writeMember (name value : String) : String :=
  quote name ++ ":" ++ value

/-- An object, its members already written. -/
def writeObject (members : List String) : String :=
  "\x7b" ++ Text.join "," members ++ "\x7d"

/-- A truth value. -/
def writeBool (b : Bool) : String := if b then "true" else "false"

/-- A word. -/
def writeWord (w : UInt32) : String := Nat.repr w.toNat

end Vdom.Json
