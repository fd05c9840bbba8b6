import Vdom.Json.Read
import Vdom.Template.Category
import Vdom.Text.Quoted
/-!
# Exchange of categories

A category is written by its name, and read from its name or from an object that gives `null` to
its name.
-/

namespace Vdom.Category

/-- The category of a name. -/
def ofName (name : String) : Except Json.Problem Category :=
  match named? name with
  | some k => .ok k
  | none => .error (.unknownVariant name (all.map Category.name))

/-- The text after `null`. -/
def skipNull (cs : List Char) : Except Json.Problem (List Char) :=
  match Json.skipSpace cs with
  | 'n' :: rest => Json.skipWord ['u', 'l', 'l'] rest
  | rest => .error (Json.mismatch "unit" rest)

/-- The text after a closing brace. -/
def closeObject (cs : List Char) : Except Json.Problem (List Char) :=
  match Json.skipSpace cs with
  | [] => .error .cutShort
  | '\x7d' :: rest => .ok rest
  | _ => .error .malformed

/-- The name of a category as the key of an object. -/
def readKey : Json.Reader String := fun cs =>
  match Json.skipSpace cs with
  | [] => .error .cutShort
  | '"' :: rest => (Json.readText rest).map fun (name, rest) => (String.ofList name, rest)
  | _ => .error .malformed

/-- A category. -/
def read : Json.Reader Category := fun cs =>
  match Json.skipSpace cs with
  | [] => .error .cutShort
  | '"' :: rest => do
    let (name, rest) ← Json.readText rest
    let k ← ofName (String.ofList name)
    .ok (k, rest)
  | '\x7b' :: rest => do
    let (name, rest) ← readKey rest
    let k ← ofName name
    let rest ← Json.skipColon rest
    let rest ← skipNull rest
    let rest ← closeObject rest
    .ok (k, rest)
  | _ => .error .malformed

/-- The written form of a category. -/
def write (k : Category) : String := quote k.name

end Vdom.Category
