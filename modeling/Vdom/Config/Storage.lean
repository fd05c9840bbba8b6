import Vdom.Config
import Vdom.Config.Schema
import Vdom.Files
/-!
# Storage — configurations and their schema in files

* **`load`** — the configuration of a project folder; a missing file is the standard one.
* **`writeSchema`** — the schema, put where editors look for it.
-/

namespace Vdom.Config

open Files (Path)

/-- Why a file could not be used. -/
inductive Failure where
  | unreadable (path : Path) (reason : Files.Refusal)
  | unfit (path : Path) (problem : Json.Problem)
  deriving DecidableEq, Repr

/-- The wording of a failure in the project folder called `home`. -/
def Failure.message (home : String) : Failure → String
  | .unreadable path reason =>
    "failed to read " ++ home ++ "/" ++ Files.pathText path ++ ": " ++ reason.message
  | .unfit path problem =>
    "failed to parse " ++ home ++ "/" ++ Files.pathText path ++ ": " ++ problem.message

/-- Where a project keeps its configuration. -/
def path : Path := ["chibi.config.json"]

/-- The folder of the schema. -/
def schemaFolder : Path := ["node_modules", ".chibi"]

/-- Where the schema is written. -/
def schemaPath : Path := schemaFolder ++ ["chibi.config.schema.json"]

/-- The configuration of the project in a folder, if there is such a folder. -/
def load (home : Option Files.Entry) : Except Failure Config :=
  match home with
  | none => .ok standard
  | some e =>
    match Files.find path e with
    | .error _ => .ok standard
    | .ok _ =>
      match Files.readText path e with
      | .error reason => .error (.unreadable path reason)
      | .ok document =>
        match Json.readDocument read document with
        | .ok c => .ok c
        | .error problem => .error (.unfit path problem)

/-- The configuration of the project, the standard one if it cannot be used. -/
def loadOrStandard (home : Option Files.Entry) : Config :=
  match load home with
  | .ok c => c
  | .error _ => standard

/-- The project folder with the schema in its place. -/
def writeSchema (home : Files.Entry) : Except Failure Files.Entry :=
  match Files.makeFolders schemaFolder home >>= Files.writeFile schemaPath schemaText.toUTF8 with
  | .ok home => .ok home
  | .error reason => .error (.unreadable schemaPath reason)

end Vdom.Config
