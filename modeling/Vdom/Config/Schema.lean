import Vdom.Json.Document
/-!
# Schema — what editors know about a configuration

* **`Property`** — the type of a field, what it defaults to and what it is for.
* **`properties`** — the fields of a configuration.
* **`schemaText`** — the JSON Schema that says so. No other field is allowed by it, although
  reading a configuration ignores others.

The schema is published on its own: fields, types and defaults are written out here, and nothing
in this module looks at how a configuration is read.
-/

namespace Vdom.Config

open Json (Document)

/-- What a schema says of a field. -/
inductive Property where
  | boolean (value : Bool) (description : String)
  | string (value : Option String) (description : String)
  | object (description : String) (properties : List (String × Property))

/-- The options of code generation with the defaults that editors show. -/
def compilerProperties : List (String × Property) :=
  [("isBrowser", .boolean false
      ("Emit \x60return function render(..)\x60 so the host can evaluate the output as an " ++
        "expression")),
    ("runtimeGlobalName", .string (some "ChibiVue")
      "Global the render function preamble destructures runtime helpers from"),
    ("sourceMap", .boolean false
      "Record generated-to-template position mappings")]

/-- The fields of a configuration. -/
def properties : List (String × Property) :=
  [("$schema", .string none "JSON Schema reference for editor autocompletion"),
    ("compiler", .object "Render function code generation" compilerProperties)]

/-- The members that list the fields of an object and forbid others. -/
def fieldMembers (fields : List (String × Document)) : List (String × Document) :=
  [("properties", .object fields), ("additionalProperties", .bool false)]

mutual

/-- A property as a schema. -/
def Property.document : Property → Document
  | .boolean value description => .object [
      ("type", .text "boolean"), ("default", .bool value), ("description", .text description)]
  | .string value description => .object (
      ("type", .text "string") ::
        ((value.map fun s => ("default", .text s)).toList ++ [("description", .text description)]))
  | .object description properties => .object (
      ("type", .text "object") :: ("description", .text description) ::
        fieldMembers (propertyDocuments properties))

/-- Properties as schemas, name by name. -/
def propertyDocuments : List (String × Property) → List (String × Document)
  | [] => []
  | (name, p) :: rest => (name, p.document) :: propertyDocuments rest

end

/-- The schema of a configuration. -/
def schemaDocument : Document := .object (
  [("$schema", .text "http://json-schema.org/draft-07/schema#"),
    ("title", .text "Chibi Configuration"),
    ("description",
      .text "Configuration file for chibi - a tiny Vue-style template compiler"),
    ("type", .text "object")] ++
  fieldMembers (propertyDocuments properties))

/-- The text of the schema. -/
def schemaText : String := schemaDocument.pretty

end Vdom.Config
