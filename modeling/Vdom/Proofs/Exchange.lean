import Vdom.Config.Storage
import Vdom.Proofs.Json.Writing
import Vdom.Source.Exchange
/-!
# Exchange without loss — what is written is read back as it was

For each kind of record the argument has two halves that meet at the value written: the writer's
text says it (`written`), and the reader accepts it as the record (`accepts`). The halves are
proved apart, so neither looks at the other's code.

* **`Lossless`** — a reader undoes a writer, and writing anew changes nothing more.
* **`Lossless.of_tree`** — the two halves put together.
* **`Config.load_found`** — a configuration file is read as the document it holds.
-/

namespace Vdom

open Json

/-- Bytes that were made from a text say that text. -/
theorem Text.fromUTF8?_toUTF8 (s : String) : String.fromUTF8? s.toUTF8 = some s := by
  rw [String.fromUTF8?, String.toUTF8_eq_toByteArray, dif_pos s.isValidUTF8]
  rfl

/-- A reader yields what was written, whatever it is; so reading, writing and reading again is no
    different from reading once. -/
def Lossless {α : Type} (read : Reader α) (write : α → String) : Prop :=
  (∀ a, readDocument read (write a) = .ok a) ∧
    ∀ document, (readDocument read document >>= fun a => readDocument read (write a))
      = readDocument read document

/-- A writer and a reader that agree on what the texts say lose nothing. -/
theorem Lossless.of_tree {α : Type} {read : Reader α} {write : α → String} (tree : α → Tree)
    (written : ∀ a, Written (tree a) (write a).toList) (accepts : ∀ a, Accepts read (tree a) a) :
    Lossless read write := by
  have back : ∀ a, readDocument read (write a) = .ok a := fun a =>
    (accepts a).document (.of_written (written a))
  refine ⟨back, fun document => ?_⟩
  cases readDocument read document with
  | error p => rfl
  | ok a => exact back a

/-! ## Options -/

namespace Emit.Options

/-- Options as a value of documents. -/
def tree (o : Options) : Json.Tree :=
  .object [(points "isBrowser", .bool o.isBrowser),
    (points "runtimeGlobalName", .text (points o.runtimeGlobalName)),
    (points "sourceMap", .bool o.sourceMap)]

theorem written (o : Options) : Json.Written o.tree o.write.toList :=
  writeObject_written (.cons (writeMember_written (writeBool_written _))
    (.cons (writeMember_written (quote_written _))
      (.cons (writeMember_written (writeBool_written _)) .nil)))

theorem accepts (o : Options) : Accepts read o.tree o := by
  have fills : record.Fills record.blank _ _ :=
    .step (.field "isBrowser" Draft.isBrowser (fun d b => { d with isBrowser := some b })
        rfl rfl (accepts_bool o.isBrowser))
      (.step (.field "runtimeGlobalName" Draft.runtimeGlobalName
          (fun d s => { d with runtimeGlobalName := some s })
          rfl rfl (accepts_string o.runtimeGlobalName))
        (.step (.field "sourceMap" Draft.sourceMap (fun d b => { d with sourceMap := some b })
            rfl rfl (accepts_bool o.sourceMap))
          .done))
  exact (Record.accepts fills rfl).map Draft.options

end Emit.Options

/-! ## Positions and spans -/

namespace Position

/-- A position as a value of documents. -/
def tree (p : Position) : Tree :=
  .object [(points "offset", .number (Nat.repr p.offset.toNat).toList),
    (points "line", .number (Nat.repr p.line.toNat).toList),
    (points "column", .number (Nat.repr p.column.toNat).toList)]

theorem written (p : Position) : Written p.tree p.write.toList :=
  writeObject_written (.cons (writeMember_written (writeWord_written _))
    (.cons (writeMember_written (writeWord_written _))
      (.cons (writeMember_written (writeWord_written _)) .nil)))

theorem accepts (p : Position) : Accepts read p.tree p := by
  have fills : record.Fills record.blank _ _ :=
    .step (.field "offset" Draft.offset (fun d w => { d with offset := some w })
        rfl rfl (accepts_word p.offset))
      (.step (.field "line" Draft.line (fun d w => { d with line := some w })
          rfl rfl (accepts_word p.line))
        (.step (.field "column" Draft.column (fun d w => { d with column := some w })
            rfl rfl (accepts_word p.column))
          .done))
  exact (Record.accepts fills rfl).map Draft.position

end Position

namespace Span

/-- A span as a value of documents. -/
def tree (s : Span) : Tree :=
  .object [(points "start", s.start.tree), (points "end", s.stop.tree),
    (points "source", .text (points s.source))]

theorem written (s : Span) : Written s.tree s.write.toList :=
  writeObject_written (.cons (writeMember_written s.start.written)
    (.cons (writeMember_written s.stop.written)
      (.cons (writeMember_written (quote_written _)) .nil)))

/-- A span is read from what says it; its ends are read as positions. -/
theorem accepts (s : Span) : Accepts read s.tree s := by
  have fills : record.Fills record.blank _ _ :=
    .step (.field "start" Draft.start (fun d p => { d with start := some p })
        rfl rfl s.start.accepts)
      (.step (.field "end" Draft.stop (fun d p => { d with stop := some p })
          rfl rfl s.stop.accepts)
        (.step (.field "source" Draft.source (fun d s => { d with source := some s })
            rfl rfl (accepts_string s.source))
          .done))
  exact (Record.accepts fills rfl).map Draft.span

end Span

/-! ## Configurations -/

namespace Config

/-- A configuration as a value of documents. -/
def tree (c : Config) : Tree :=
  .object ((c.schema.map fun s => (points "$schema", .text (points s))).toList ++
    [(points "compiler", c.compiler.tree)])

/-- A written configuration says its schema, if it has one, and its options. -/
theorem written (c : Config) : Written c.tree c.write.toList := by
  obtain ⟨schema, compiler⟩ := c
  have last : List.Forall₂ IsMember [(points "compiler", compiler.tree)]
      [writeMember "compiler" compiler.write] := .cons (writeMember_written compiler.written) .nil
  cases schema with
  | none => exact writeObject_written last
  | some s => exact writeObject_written (.cons (writeMember_written (quote_written s)) last)

/-- A configuration is read from what says it. -/
theorem accepts (c : Config) : Accepts read c.tree c := by
  obtain ⟨schema, compiler⟩ := c
  have last (s : Option (Option String)) : record.Fills ⟨s, none⟩
      [(points "compiler", compiler.tree)] ⟨s, some compiler⟩ :=
    .step (.field "compiler" Draft.compiler (fun d o => { d with compiler := some o })
      rfl rfl compiler.accepts) .done
  cases schema with
  | none => exact (Record.accepts (last none) rfl).map Draft.config
  | some s =>
      have fills : record.Fills record.blank _ _ :=
        .step (.field "$schema" Draft.schema (fun d s => { d with schema := some s })
          rfl rfl (accepts_nullable_string s)) (last (some (some s)))
      exact (Record.accepts fills rfl).map Draft.config

/-- A configuration file is read as the document it holds. -/
theorem load_found {home : Files.Entry} {document : String} {c : Config}
    (found : Files.find path home = .ok (.file document.toUTF8))
    (fits : readDocument read document = .ok c) : load (some home) = .ok c := by
  have text : Files.readText path home = .ok document := by
    simp only [Files.readText, found, Text.fromUTF8?_toUTF8]
  simp only [load, found, text, fits]

end Config

/-- **NOTHING IS LOST IN THE EXCHANGE**: options, positions, spans and configurations are read back
    as they were written, and a configuration file that was written is loaded as it was. -/
theorem exchange_lossless :
    Lossless Emit.Options.read Emit.Options.write ∧ Lossless Position.read Position.write ∧
      Lossless Span.read Span.write ∧ Lossless Config.read Config.write ∧
      ∀ (c : Config) (home : Files.Entry),
        Files.find Config.path home = .ok (.file c.write.toUTF8) →
          Config.load (some home) = .ok c := by
  have config : Lossless Config.read Config.write := .of_tree _ Config.written Config.accepts
  refine ⟨.of_tree _ Emit.Options.written Emit.Options.accepts,
    .of_tree _ Position.written Position.accepts, .of_tree _ Span.written Span.accepts, config, ?_⟩
  intro c home found
  exact Config.load_found found (config.1 c)

/-- A configuration with an empty schema reference and a name that needs every kind of escape. -/
def awkward : Config :=
  ⟨some "", ⟨true, "\"a\\b\"\n\x01/\x7fé\u2028😀", false⟩⟩

/-- A folder that holds it. -/
def awkwardHome : Files.Entry :=
  .folder [("package.json", .file "\x7b\x7d".toUTF8),
    ("chibi.config.json", .file awkward.write.toUTF8)]

/-- The awkward configuration is loaded as it was written. -/
theorem awkward_kept :
    Files.find Config.path awkwardHome = .ok (.file awkward.write.toUTF8) ∧
      Config.load (some awkwardHome) = .ok awkward :=
  ⟨rfl, exchange_lossless.2.2.2.2 awkward awkwardHome rfl⟩

end Vdom
