import Vdom.Emit.OptionsExchange
/-!
# Configuration — the settings of a project

A configuration is a record of a schema reference, which only editors look at, and the options of
code generation. Absent fields keep their standard value, and unknown fields are ignored.
-/

namespace Vdom

/-- The settings of a project. -/
structure Config where
  schema : Option String
  compiler : Emit.Options
  deriving DecidableEq, Repr

namespace Config

/-- No schema reference and standard options. -/
def standard : Config := ⟨none, .standard⟩

/-- A configuration being read. -/
structure Draft where
  schema : Option (Option String)
  compiler : Option Emit.Options

/-- How a configuration is written. -/
def record : Json.Record Draft :=
  { title := "struct ChibiConfig"
    complete := false
    blank := ⟨none, none⟩
    fields := [
      .of "$schema" Draft.schema (fun d s => { d with schema := some s })
        (Json.readNullable Json.readString),
      .of "compiler" Draft.compiler (fun d o => { d with compiler := some o })
        Emit.Options.read] }

/-- The configuration of a draft. -/
def Draft.config (d : Draft) : Config :=
  ⟨d.schema.getD none, d.compiler.getD .standard⟩

/-- A configuration. -/
def read : Json.Reader Config := fun cs =>
  (record.read cs).map fun (d, rest) => (d.config, rest)

/-- The compact form of a configuration; a schema reference that is not there is left out. -/
def write (c : Config) : String :=
  Json.writeObject (
    (match c.schema with
      | some s => [Json.writeMember "$schema" (quote s)]
      | none => []) ++
    [Json.writeMember "compiler" c.compiler.write])

end Config

end Vdom
