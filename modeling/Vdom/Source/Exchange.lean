import Vdom.Json.Record
import Vdom.Json.Write
import Vdom.Source.Span
/-!
# Exchange of positions and spans

Both are records without optional fields.
-/

namespace Vdom

namespace Position

/-- A position being read. -/
structure Draft where
  offset : Option UInt32
  line : Option UInt32
  column : Option UInt32

/-- How a position is written. -/
def record : Json.Record Draft :=
  { title := "struct Position"
    complete := true
    blank := ⟨none, none, none⟩
    fields := [
      .of "offset" Draft.offset (fun d w => { d with offset := some w }) Json.readWord,
      .of "line" Draft.line (fun d w => { d with line := some w }) Json.readWord,
      .of "column" Draft.column (fun d w => { d with column := some w }) Json.readWord] }

/-- The position of a draft; a complete draft has every field. -/
def Draft.position (d : Draft) : Position :=
  ⟨d.offset.getD 0, d.line.getD 0, d.column.getD 0⟩

/-- A position. -/
def read : Json.Reader Position := fun cs =>
  (record.read cs).map fun (d, rest) => (d.position, rest)

/-- The compact form of a position. -/
def write (p : Position) : String :=
  Json.writeObject [
    Json.writeMember "offset" (Json.writeWord p.offset),
    Json.writeMember "line" (Json.writeWord p.line),
    Json.writeMember "column" (Json.writeWord p.column)]

end Position

namespace Span

/-- A span being read. -/
structure Draft where
  start : Option Position
  stop : Option Position
  source : Option String

/-- How a span is written. -/
def record : Json.Record Draft :=
  { title := "struct SourceLocation"
    complete := true
    blank := ⟨none, none, none⟩
    fields := [
      .of "start" Draft.start (fun d p => { d with start := some p }) Position.read,
      .of "end" Draft.stop (fun d p => { d with stop := some p }) Position.read,
      .of "source" Draft.source (fun d s => { d with source := some s }) Json.readString] }

/-- The span of a draft; a complete draft has every field. -/
def Draft.span (d : Draft) : Span :=
  ⟨d.start.getD default, d.stop.getD default, d.source.getD ""⟩

/-- A span. -/
def read : Json.Reader Span := fun cs =>
  (record.read cs).map fun (d, rest) => (d.span, rest)

/-- The compact form of a span. -/
def write (s : Span) : String :=
  Json.writeObject [
    Json.writeMember "start" s.start.write,
    Json.writeMember "end" s.stop.write,
    Json.writeMember "source" (quote s.source)]

end Span

end Vdom
