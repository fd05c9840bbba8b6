import Vdom.Text.Parts
/-!
# Files — a tree of folders

What a path leads to in a tree, and what writing a file and making folders do to it. Every path
is relative to the tree's root and lists folder names from the outermost.
-/

namespace Vdom.Files

/-- A file or a folder. -/
inductive Entry where
  | file (bytes : ByteArray)
  | folder (entries : List (String × Entry))

/-- Why a file operation fails. -/
inductive Refusal where
  | missing
  | exists
  | notFolder
  | isFolder
  | notText
  deriving DecidableEq, Repr

/-- The wording of a refusal. -/
def Refusal.message : Refusal → String
  | .missing => "No such file or directory (os error 2)"
  | .exists => "File exists (os error 17)"
  | .notFolder => "Not a directory (os error 20)"
  | .isFolder => "Is a directory (os error 21)"
  | .notText => "stream did not contain valid UTF-8"

/-- A path, folder by folder. -/
abbrev Path := List String

/-- The text of a path. -/
def pathText (path : Path) : String := Text.join "/" path

/-- Put an entry under a name, in place of the one that had it. -/
def replace (name : String) (entry : Entry) : List (String × Entry) → List (String × Entry)
  | [] => [(name, entry)]
  | (other, old) :: rest =>
    if other = name then (name, entry) :: rest else (other, old) :: replace name entry rest

/-- What a path leads to. -/
def find (path : Path) (e : Entry) : Except Refusal Entry :=
  match path, e with
  | [], e => .ok e
  | _ :: _, .file _ => .error .notFolder
  | name :: path, .folder entries =>
    match entries.lookup name with
    | some e => find path e
    | none => .error .missing

/-- The text of the file at a path. -/
def readText (path : Path) (e : Entry) : Except Refusal String :=
  match find path e with
  | .ok (.file bytes) =>
    match String.fromUTF8? bytes with
    | some s => .ok s
    | none => .error .notText
  | .ok (.folder _) => .error .isFolder
  | .error r => .error r

/-- The tree with all folders of a path. A file in place of the last folder is in the way, and a
    file in place of an earlier one leads nowhere. -/
def makeFolders (path : Path) (e : Entry) : Except Refusal Entry :=
  match path, e with
  | [], .folder entries => .ok (.folder entries)
  | [], .file _ => .error .exists
  | _ :: _, .file _ => .error .notFolder
  | name :: path, .folder entries => do
    let inner ← makeFolders path ((entries.lookup name).getD (.folder []))
    .ok (.folder (replace name inner entries))

/-- The tree with the file at a path written anew. -/
def writeFile (path : Path) (bytes : ByteArray) (e : Entry) : Except Refusal Entry :=
  match path, e with
  | [], .file _ => .ok (.file bytes)
  | [], .folder _ => .error .isFolder
  | _ :: _, .file _ => .error .notFolder
  | [name], .folder entries => do
    let written ← writeFile [] bytes ((entries.lookup name).getD (.file .empty))
    .ok (.folder (replace name written entries))
  | name :: path, .folder entries =>
    match entries.lookup name with
    | none => .error .missing
    | some inner => do
      let written ← writeFile path bytes inner
      .ok (.folder (replace name written entries))

end Vdom.Files
