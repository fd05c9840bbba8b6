import Vdom.Text.Parts
import Vdom.Text.Quoted
/-!
# Documents — JSON laid out for readers

`Document.pretty` writes every member of an object on a line of its own, two spaces deeper than
the object.
-/

namespace Vdom.Json

/-- A document. -/
inductive Document where
  | bool (b : Bool)
  | text (s : String)
  | object (members : List (String × Document))

/-- A new line at a depth. -/
def newLine (depth : Nat) : String :=
  String.ofList ('\n' :: List.replicate (2 * depth) ' ')

mutual

/-- The lines of a document whose first line stands at a depth. -/
def Document.layout (depth : Nat) : Document → String
  | .bool b => if b then "true" else "false"
  | .text s => quote s
  | .object members =>
    "\x7b" ++ Text.join "," (layoutMembers (depth + 1) members) ++ newLine depth ++ "\x7d"

/-- The lines of the members of an object, each from a new line on. -/
def layoutMembers (depth : Nat) : List (String × Document) → List String
  | [] => []
  | (name, d) :: rest =>
    (newLine depth ++ quote name ++ ": " ++ d.layout depth) :: layoutMembers depth rest

end

/-- The text of a document. -/
def Document.pretty (d : Document) : String := d.layout 0

end Vdom.Json
