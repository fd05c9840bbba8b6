import Vdom.Emit.Options
import Vdom.Json.Record
import Vdom.Json.Write
/-!
# Exchange of options

A record in which every field may be absent; absent fields keep their standard value.
-/

namespace Vdom.Emit.Options

/-- Options being read. -/
structure Draft where
  isBrowser : Option Bool
  runtimeGlobalName : Option String
  sourceMap : Option Bool

/-- How options are written. -/
def record : Json.Record Draft :=
  { title := "struct CodegenOptions"
    complete := false
    blank := ⟨none, none, none⟩
    fields := [
      .of "isBrowser" Draft.isBrowser (fun d b => { d with isBrowser := some b }) Json.readBool,
      .of "runtimeGlobalName" Draft.runtimeGlobalName
        (fun d s => { d with runtimeGlobalName := some s }) Json.readString,
      .of "sourceMap" Draft.sourceMap (fun d b => { d with sourceMap := some b }) Json.readBool] }

/-- The options of a draft. -/
def Draft.options (d : Draft) : Options :=
  { isBrowser := d.isBrowser.getD standard.isBrowser
    runtimeGlobalName := d.runtimeGlobalName.getD standard.runtimeGlobalName
    sourceMap := d.sourceMap.getD standard.sourceMap }

/-- Options. -/
def read : Json.Reader Options := fun cs =>
  (record.read cs).map fun (d, rest) => (d.options, rest)

/-- The compact form of options. -/
def write (o : Options) : String :=
  Json.writeObject [
    Json.writeMember "isBrowser" (Json.writeBool o.isBrowser),
    Json.writeMember "runtimeGlobalName" (quote o.runtimeGlobalName),
    Json.writeMember "sourceMap" (Json.writeBool o.sourceMap)]

end Vdom.Emit.Options
