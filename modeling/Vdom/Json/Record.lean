import Vdom.Json.Read
/-!
# Records — objects with fields of known names

A record may be written as an object, its fields in any order and others among them, or as an
array of its fields in order. While it is read, a draft holds the fields seen so far.

* **`Record.read`** — the draft that the record at the front of a text fills.
-/

namespace Vdom.Json

/-- A field of records drafted as `δ`. -/
structure Field (δ : Type) where
  name : String
  /-- Whether a draft has the field. -/
  isSet : δ → Bool
  /-- Read the value of the field into a draft. -/
  read : δ → Reader δ

/-- The field kept at `get` and put in place by `set`, read by `read`. -/
def Field.of {δ α : Type} (name : String) (get : δ → Option α) (set : δ → α → δ)
    (read : Reader α) : Field δ :=
  { name
    isSet := fun d => (get d).isSome
    read := fun d cs => (read cs).map fun (a, rest) => (set d a, rest) }

/-- How a kind of record is written. -/
structure Record (δ : Type) where
  title : String
  /-- Whether every field must be there. -/
  complete : Bool
  /-- The draft without fields. -/
  blank : δ
  fields : List (Field δ)

namespace Record

variable {δ : Type}

/-- The draft, if it has all the fields that it must have. -/
def finish (r : Record δ) (d : δ) : Except Problem δ :=
  match r.fields.find? fun f => !f.isSet d with
  | some f => if r.complete then .error (.missingField f.name) else .ok d
  | none => .ok d

/-- The draft after the member `key`, whose value follows. A value that belongs to no field is
    skipped. -/
def readMember (r : Record δ) (key : String) (d : δ) : Reader δ := fun cs =>
  match r.fields.find? fun f => f.name = key with
  | some f =>
    if f.isSet d then .error (.duplicateField f.name) else skipColon cs >>= f.read d
  | none => do
    let rest ← skipColon cs
    let rest ← skipValue rest
    .ok (d, rest)

/-- The draft after the members of an object, from inside the quotes of the first key. `fuel`
    bounds their number. -/
def readMembers (r : Record δ) : Nat → δ → Reader δ
  | 0, _, _ => .error .malformed
  | fuel + 1, d, cs => do
    let (key, rest) ← readText cs
    let (d, rest) ← r.readMember (String.ofList key) d rest
    match skipSpace rest with
    | [] => .error .cutShort
    | '\x7d' :: rest => .ok (d, rest)
    | ',' :: rest =>
      match skipSpace rest with
      | [] => .error .cutShort
      | '"' :: rest => r.readMembers fuel d rest
      | _ => .error .malformed
    | _ => .error .malformed

/-- The draft of an object whose opening brace has been read. Every member before the last has a
    character, so they are at most one more than the text has characters. -/
def readObject (r : Record δ) : Reader δ := fun cs =>
  match skipSpace cs with
  | [] => .error .cutShort
  | '\x7d' :: rest => .ok (r.blank, rest)
  | '"' :: rest => r.readMembers (rest.length + 1) r.blank rest
  | _ => .error .malformed

/-- The text after the closing bracket of an array. -/
def closeArray (cs : List Char) : Except Problem (List Char) :=
  match skipSpace cs with
  | [] => .error .cutShort
  | ']' :: rest => .ok rest
  | _ => .error .malformed

/-- The title of the record with the number of its fields. -/
def wantedLength (r : Record δ) : String :=
  r.title ++ " with " ++ toString r.fields.length ++ " elements"

/-- The draft after the entries of an array, of which `count` have been read and belong to the
    fields before `fields`. Where entries run out, the other fields stay unset. -/
def readEntries (r : Record δ) (count : Nat) (d : δ) : List (Field δ) → Reader δ
  | [], cs => (closeArray cs).map (d, ·)
  | f :: fields, cs =>
    match skipSpace cs with
    | [] => .error .cutShort
    | ']' :: rest =>
      if r.complete then .error (.wrongLength count r.wantedLength) else .ok (d, rest)
    | rest => do
      let rest ← if count = 0 then .ok rest else nextEntry rest
      let (d, rest) ← f.read d rest
      r.readEntries (count + 1) d fields rest
where
  /-- The text of an entry that is not the first, after its comma. -/
  nextEntry : List Char → Except Problem (List Char)
    | ',' :: rest =>
      match skipSpace rest with
      | [] => .error .cutShort
      | ']' :: _ => .error .malformed
      | rest => .ok rest
    | _ => .error .malformed

/-- The draft of the record at the front of a text. -/
def read (r : Record δ) : Reader δ := fun cs =>
  match skipSpace cs with
  | '[' :: rest => r.readEntries 0 r.blank r.fields rest
  | '\x7b' :: rest => do
    let (d, rest) ← r.readObject rest
    let d ← r.finish d
    .ok (d, rest)
  | rest => .error (mismatch r.title rest)

end Record

end Vdom.Json
