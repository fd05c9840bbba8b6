import Vdom.Proofs.Arguments
import Vdom.Proofs.Layout
import Vdom.Proofs.Reported
import Vdom.Proofs.Steps
/-!
# Emission — every node can be written straight into a buffer

A code generator need not list pieces before it writes them: it can hand one buffer from node to
node, each of which writes at its end. Here every kind of node has such an emitter, in reading
order. An emitter sees the whole buffer and yet writes what it would write anywhere: it only
appends, and what it appends is told by the pieces of its node.

* **`Emitter`** — what writes into a buffer or stops; `emitTemplate`, `emitOperand`, `emitKey` and
  their like are the emitters of nodes.
* **`Emits`** — an emitter appends what a writer yields, in whatever buffer. It is closed under the
  ways in which emitters are put together.
* **`Portion`** — whatever is written on its own; `emits_portion` covers all of them.
* **`Grown`**, **`Counterpart`** — what writing has done to a buffer, and how the mappings of one
  portion in two buffers belong together.
* **`emission_independent`** — the main theorem.
-/

namespace Vdom.Emit

open Writer (plain chain enclosed sequence chain_plain chain_assoc enclosed_eq)

/-! ## Emitters -/

/-- What writes into a buffer, or stops with a fault. -/
abbrev Emitter := Buffer → Except Fault Buffer

namespace Emitter

/-- Write nothing. -/
def nothing : Emitter := fun b => .ok b

/-- Write a text. -/
def code (text : String) : Emitter := fun b => .ok (b.put text)

/-- Write a text for a span of the template, which is marked unless it is a stub. -/
def spanned (text : String) (span : Span) : Emitter := fun b =>
  .ok ((if span.isStub then b else b.mark span.start).put text)

/-- One emitter after another. -/
def andThen (first second : Emitter) : Emitter := fun b => do
  second (← first b)

/-- Note the use of a helper and go on with its name. -/
def named (registry : Registry) (helper : Helper) (next : String → Emitter) : Emitter := fun b => do
  let (name, b) ← b.resolve registry helper
  next name b

/-- Emitters in order, each behind a comma if commas are wanted. -/
def following (comma : Bool) : List Emitter → Emitter
  | [] => nothing
  | e :: rest => (if comma then code ", " else nothing).andThen (e.andThen (following comma rest))

/-- Emitters in order, with commas between neighbours if commas are wanted. -/
def list (comma : Bool) : List Emitter → Emitter
  | [] => nothing
  | e :: rest => e.andThen (following comma rest)

/-- Emitters in order as an array. -/
def array (es : List Emitter) : Emitter :=
  (code "[").andThen ((list true es).andThen (code "]"))

/-- How emitters are grouped does not show. -/
theorem andThen_assoc (e f g : Emitter) : (e.andThen f).andThen g = e.andThen (f.andThen g) := by
  funext b
  simp only [andThen]
  cases e b with
  | error fault => rfl
  | ok b => rfl

end Emitter

open Emitter (nothing code spanned andThen named following list array)

/-- An atom: quoted if static, pasted otherwise. -/
def emitAtom (a : Atom) : Emitter :=
  if a.isStatic then spanned (quote a.content) a.span else spanned a.content a.span

mutual

/-- An expression. -/
def emitExpr (registry : Registry) : Expr → Emitter
  | .atom a => emitAtom a
  | .compound parts _ => emitParts registry parts

/-- A part of a compound. -/
def emitPart (registry : Registry) : Part → Emitter
  | .atom a => emitAtom a
  | .compound parts _ => emitParts registry parts
  | .interpolation content _ => emitExpr registry content
  | .text content span => spanned (quote content) span
  | .raw text => code text
  | .symbol helper => named registry helper code

/-- The parts of a compound, pasted together. -/
def emitParts (registry : Registry) : List Part → Emitter
  | [] => nothing
  | part :: rest => (emitPart registry part).andThen (emitParts registry rest)

end

/-- A property key: a static atom is quoted, all else is computed in brackets. -/
def emitKey (registry : Registry) : Expr → Emitter
  | .atom a =>
    if a.isStatic then spanned (quote a.content) a.span
    else (spanned "[" a.span).andThen ((code a.content).andThen (code "]"))
  | .compound parts _ => (code "[").andThen ((emitParts registry parts).andThen (code "]"))

/-- The text of a tag; a helper is noted as used before anything is written. -/
def tagged (registry : Registry) (tag : Tag) (next : String → Emitter) : Emitter :=
  match tag with
  | .name tag => next (quote tag)
  | .dynamic text => next text
  | .symbol helper => named registry helper next

mutual

/-- A node of a template. -/
def emitTemplate (registry : Registry) : Template → Emitter
  | .element tag _ plan _ => emitPlan registry tag plan
  | .text content span => spanned (quote content) span
  | .interpolation content _ => emitExpr registry content
  | .compound parts _ => emitParts registry parts

/-- What stands for the element `tag`. -/
def emitPlan (registry : Registry) (tag : String) : Plan → Emitter
  | .missing => fun _ => .error (.unplanned tag)
  | .call c => emitCall registry c
  | .atom a => emitAtom a

/-- A call: its name, then the tag, props and children without absent ones at the end. -/
def emitCall (registry : Registry) : Call → Emitter
  | .mk tag props content span =>
    ((spanned nodeFunction span).andThen (code "(")).andThen
      (tagged registry tag fun text =>
        (list true (fillGaps (code "null")
          [some (code text), emitProps registry props, emitContent registry content])).andThen
        (code ")"))

/-- The props of a call, if it has any. -/
def emitProps (registry : Registry) : Option Operand → Option Emitter
  | none => none
  | some value => some (emitOperand registry value)

/-- The children of a call, if it has any. -/
def emitContent (registry : Registry) : Content → Option Emitter
  | .absent => none
  | .many children => some (array (emitChildren registry children))
  | .one child => some (emitTemplate registry child)
  | .operand value => some (emitOperand registry value)

/-- The nodes of a list. -/
def emitChildren (registry : Registry) : List Template → List Emitter
  | [] => []
  | child :: rest => emitTemplate registry child :: emitChildren registry rest

/-- A value in the code. -/
def emitOperand (registry : Registry) : Operand → Emitter
  | .call c => emitCall registry c
  | .object properties span =>
    if properties.isEmpty then spanned "\x7b\x7d" span
    else (spanned "\x7b " span).andThen
      ((list true (emitProperties registry properties)).andThen (code " \x7d"))
  | .array items span => (spanned "" span).andThen (array (emitItems registry items))
  | .atom a => emitAtom a
  | .compound parts _ => emitParts registry parts

/-- The properties of an object. -/
def emitProperties (registry : Registry) : List Property → List Emitter
  | [] => []
  | property :: rest => emitProperty registry property :: emitProperties registry rest

/-- A property: key, colon, value. -/
def emitProperty (registry : Registry) : Property → Emitter
  | .mk key value _ =>
    (emitKey registry key).andThen ((code ": ").andThen (emitOperand registry value))

/-- The items of an array. -/
def emitItems (registry : Registry) : List Item → List Emitter
  | [] => []
  | item :: rest => emitItem registry item :: emitItems registry rest

/-- An item of an array. -/
def emitItem (registry : Registry) : Item → Emitter
  | .raw text => code text
  | .operand value => emitOperand registry value

end

/-! ## What emitters append -/

/-- An emitter appends what a writer yields to whatever buffer it is given, and stops where the
    writer does. -/
def Emits (registry : Registry) (e : Emitter) (w : Writer) : Prop :=
  ∀ b, e b = (w registry).map b.addAll

variable {registry : Registry}

theorem emits_nothing : Emits registry nothing (plain []) := fun _ => rfl

theorem emits_code (text : String) : Emits registry (code text) (plain [.code text]) := fun _ => rfl

/-- The mark of a span is left out by the emitter exactly where it is by the pieces. -/
theorem emits_spanned (text : String) (span : Span) :
    Emits registry (spanned text span) (plain (Piece.spanned text span)) := by
  intro b
  rw [spanned, plain, Piece.spanned]
  split <;> rfl

/-- A helper is noted before its name is written, in the buffer as in the pieces. -/
theorem emits_symbol (helper : Helper) :
    Emits registry (named registry helper code) fun registry => symbolPieces registry helper := by
  intro b
  simp only [named, Buffer.resolve, symbolPieces]
  cases registry.resolve helper with
  | error f => rfl
  | ok name => rfl

/-- **ONE AFTER ANOTHER**: what the first emitter leaves is a buffer like any other. -/
theorem Emits.chain {e f : Emitter} {w x : Writer} (first : Emits registry e w)
    (second : Emits registry f x) : Emits registry (e.andThen f) (chain w x) := by
  intro b
  rw [andThen, first b, Writer.chain]
  cases w registry with
  | error f => rfl
  | ok ps =>
      show f (b.addAll ps) = _
      rw [second]
      cases x registry with
      | error f => rfl
      | ok qs => exact congrArg Except.ok (b.addAll_append ps qs).symm

/-- Between an opening and a closing text, an emitter appends what it would alone. -/
theorem Emits.enclosed {before : List Piece} {e f : Emitter} {w : Writer}
    (opening : Emits registry e (plain before)) (inner : Emits registry f w) (after : String) :
    Emits registry (e.andThen (f.andThen (code after))) (enclosed before w after) := by
  rw [enclosed_eq]
  exact opening.chain (inner.chain (emits_code after))

/-- Commas stand between neighbours. -/
theorem Emits.commas {es : List Emitter} {ws : List Writer}
    (each : List.Forall₂ (Emits registry) es ws) :
    Emits registry (list true es) (commas id ws) := by
  induction each with
  | nil => exact emits_nothing
  | cons first others ih =>
      -- A comma is written only if another entry follows.
      cases others with
      | nil =>
          rw [commas_single, ← chain_plain (id _)]
          exact first.chain emits_nothing
      | cons second rest =>
          rw [commas_cons]
          exact first.chain ((emits_code ", ").chain ih)

/-- Without commas, a list is pasted together. -/
theorem Emits.sequence {es : List Emitter} {ws : List Writer}
    (each : List.Forall₂ (Emits registry) es ws) :
    Emits registry (list false es) (sequence ws) := by
  induction each with
  | nil => exact emits_nothing
  | cons first others ih =>
      cases others with
      | nil => exact first.chain emits_nothing
      | cons second rest => exact first.chain ih

/-- An array of emitters goes with the array of their writers. -/
theorem Emits.array {es : List Emitter} {ws : List Writer}
    (each : List.Forall₂ (Emits registry) es ws) :
    Emits registry (array es) (Writer.enclosed [.code "["] (Emit.commas id ws) "]") :=
  Emits.enclosed (emits_code "[") (Emits.commas each) "]"

/-! ## Nodes -/

theorem emits_atom (a : Atom) : Emits registry (emitAtom a) (plain (atomPieces a)) := by
  rw [emitAtom, atomPieces, atomText]
  split
  · exact emits_spanned _ _
  · exact emits_spanned _ _

mutual

/-- An expression is emitted as its pieces are listed; by recursion on its parts. -/
theorem emits_expr : ∀ content : Expr,
    Emits registry (emitExpr registry content) fun registry => exprPieces registry content
  | .atom a => by
      simp only [emitExpr, exprPieces]
      exact emits_atom a
  | .compound parts span => by
      simp only [emitExpr, exprPieces]
      exact emits_parts parts

theorem emits_part : ∀ part : Part,
    Emits registry (emitPart registry part) fun registry => partPieces registry part
  | .atom a => by
      simp only [emitPart, partPieces]
      exact emits_atom a
  | .compound parts span => by
      simp only [emitPart, partPieces]
      exact emits_parts parts
  | .interpolation content span => by
      simp only [emitPart, partPieces]
      exact emits_expr content
  | .text content span => by
      simp only [emitPart, partPieces]
      exact emits_spanned _ span
  | .raw text => by
      simp only [emitPart, partPieces]
      exact emits_code text
  | .symbol helper => by
      simp only [emitPart, partPieces]
      exact emits_symbol helper

theorem emits_parts : ∀ parts : List Part,
    Emits registry (emitParts registry parts) fun registry => partsPieces registry parts
  | [] => by
      simp only [emitParts, partsPieces]
      exact emits_nothing
  | part :: rest => by
      rw [emitParts, parts_cons]
      exact (emits_part part).chain (emits_parts rest)

end

/-- A computed key is emitted between brackets of its own. -/
theorem emits_key : ∀ key : Expr,
    Emits registry (emitKey registry key) fun registry => keyPieces registry key
  | .atom a => by
      simp only [emitKey, keyPieces, atomPieces, atomText]
      split
      · exact emits_spanned _ _
      · exact (emits_spanned "[" a.span).chain ((emits_code a.content).chain (emits_code "]"))
  | .compound parts span => by
      rw [key_computed, emitKey]
      exact (emits_code "[").enclosed (emits_parts parts) "]"

/-- A tag is emitted as its pieces are listed. -/
theorem emits_tag (tag : Tag) :
    Emits registry (tagged registry tag code) fun registry => tagPieces registry tag := by
  cases tag with
  | name tag => exact emits_code (quote tag)
  | dynamic text => exact emits_code text
  | symbol helper => exact emits_symbol helper

/-- Whether a tag is looked up before the arguments or as the first of them makes no difference. -/
theorem tagged_first (tag : Tag) (others : List (Option Emitter)) (last : Emitter) :
    (tagged registry tag fun text =>
        (list true (fillGaps (code "null") (some (code text) :: others))).andThen last)
      = (list true (fillGaps (code "null") (some (tagged registry tag code) :: others))).andThen
          last := by
  cases tag with
  | name tag => rfl
  | dynamic text => rfl
  | symbol helper =>
      funext b
      simp only [tagged, fillGaps, list, andThen, named, Buffer.resolve]
      cases registry.resolve helper with
      | error f => rfl
      | ok name => rfl

/-- An optional argument is emitted as it is written, or absent from both. -/
def EmitsArgument (registry : Registry) (e : Option Emitter) (slot : Slot) : Prop :=
  ∃ w : Option Writer, slot = slotOf w ∧ Option.Rel (Emits registry) e w

/-- A call is emitted argument by argument. -/
theorem emits_arguments (tag : Tag) {second third : Option Emitter} {props content : Slot}
    (hsecond : EmitsArgument registry second props)
    (hthird : EmitsArgument registry third content) :
    Emits registry
      (list true (fillGaps (code "null") [some (tagged registry tag code), second, third]))
      (arguments (fun registry => tagPieces registry tag) props content) := by
  obtain ⟨p, rfl, emitsProps⟩ := hsecond
  obtain ⟨c, rfl, emitsContent⟩ := hthird
  rw [arguments_eq]
  exact Emits.commas (fillGaps_rel (emits_code "null")
    (.cons (.some (emits_tag tag)) (.cons emitsProps (.cons emitsContent .nil))))

mutual

/-- **EVERY TEMPLATE IS APPENDED**, by recursion on its nodes, one case for each kind. -/
theorem emits_template : ∀ t : Template,
    Emits registry (emitTemplate registry t) fun registry => templatePieces registry t
  | .element tag parsed plan span => by
      simp only [emitTemplate, templatePieces]
      exact emits_plan tag plan
  | .text content span => by
      simp only [emitTemplate, templatePieces]
      exact emits_spanned _ span
  | .interpolation content span => by
      simp only [emitTemplate, templatePieces]
      exact emits_expr content
  | .compound parts span => by
      simp only [emitTemplate, templatePieces]
      exact emits_parts parts

/-- An element without a plan stops the emitter with the fault of its pieces. -/
theorem emits_plan (tag : String) : ∀ plan : Plan,
    Emits registry (emitPlan registry tag plan) fun registry => planPieces registry tag plan
  | .missing => by
      simp only [emitPlan, planPieces]
      intro b
      rfl
  | .call c => by
      simp only [emitPlan, planPieces]
      exact emits_call c
  | .atom a => by
      simp only [emitPlan, planPieces]
      exact emits_atom a

/-- A call is emitted as its function and those of its arguments that are not left out. -/
theorem emits_call : ∀ c : Call,
    Emits registry (emitCall registry c) fun registry => callPieces registry c
  | .mk tag props content span => by
      -- The tag is looked up in front of the list and written as the first of it.
      show Emits registry _ (Site.call (.mk tag props content span)).writer
      rw [call_writer, emitCall, tagged_first]
      have arguments := emits_arguments tag (emits_props props) (emits_content content)
      have opening : Emits registry ((spanned nodeFunction span).andThen (code "("))
          (plain (Piece.spanned nodeFunction span ++ [.code "("])) :=
        (emits_spanned nodeFunction span).chain (emits_code "(")
      exact Emits.enclosed opening arguments ")"

/-- Props that are absent have neither emitter nor pieces, and so it is with children. -/
theorem emits_props : ∀ props : Option Operand,
    EmitsArgument registry (emitProps registry props) fun registry => propsPieces registry props
  | none => ⟨none, by simp only [propsPieces, slotOf], by rw [emitProps]; exact .none⟩
  | some value => ⟨some fun registry => operandPieces registry value,
      by simp only [propsPieces, slotOf], by rw [emitProps]; exact .some (emits_operand value)⟩

theorem emits_content : ∀ content : Content,
    EmitsArgument registry (emitContent registry content)
      fun registry => contentPieces registry content
  | .absent => ⟨none, by simp only [contentPieces, slotOf], by rw [emitContent]; exact .none⟩
  | .many children => by
      refine ⟨some _, content_many children, ?_⟩
      rw [emitContent, commas_map]
      exact .some (Emits.array (emits_children children))
  | .one child => ⟨some fun registry => templatePieces registry child,
      by simp only [contentPieces, slotOf], by rw [emitContent]; exact .some (emits_template child)⟩
  | .operand value => ⟨some fun registry => operandPieces registry value,
      by simp only [contentPieces, slotOf], by rw [emitContent]; exact .some (emits_operand value)⟩

/-- Each of several children has its own emitter, in order. -/
theorem emits_children : ∀ children : List Template,
    List.Forall₂ (Emits registry) (emitChildren registry children)
      (children.map fun child registry => templatePieces registry child)
  | [] => by
      rw [emitChildren]
      exact .nil
  | child :: rest => by
      rw [emitChildren, List.map_cons]
      exact .cons (emits_template child) (emits_children rest)

/-- A value is emitted as its pieces are listed, an empty object in one piece. -/
theorem emits_operand : ∀ value : Operand,
    Emits registry (emitOperand registry value) fun registry => operandPieces registry value
  | .call c => by
      simp only [emitOperand, operandPieces]
      exact emits_call c
  | .object [] span => by
      simp only [emitOperand, operandPieces]
      exact emits_spanned "\x7b\x7d" span
  | .object (property :: rest) span => by
      show Emits registry _ (Site.object (property :: rest) span).writer
      rw [object_writer, emitOperand, commas_map]
      exact (emits_spanned "\x7b " span).enclosed
        (Emits.commas (emits_properties (property :: rest))) " \x7d"
  | .array items span => by
      -- The mark of an array stands on an empty text before the bracket.
      show Emits registry _ (Site.array items span).writer
      rw [array_writer, emitOperand, commas_map, array, ← Emitter.andThen_assoc]
      exact Emits.enclosed ((emits_spanned "" span).chain (emits_code "["))
        (Emits.commas (emits_items items)) "]"
  | .atom a => by
      simp only [emitOperand, operandPieces]
      exact emits_atom a
  | .compound parts span => by
      simp only [emitOperand, operandPieces]
      exact emits_parts parts

theorem emits_properties : ∀ properties : List Property,
    List.Forall₂ (Emits registry) (emitProperties registry properties)
      (properties.map fun property registry => propertyPieces registry property)
  | [] => by
      rw [emitProperties]
      exact .nil
  | property :: rest => by
      rw [emitProperties, List.map_cons]
      exact .cons (emits_property property) (emits_properties rest)

theorem emits_property : ∀ property : Property,
    Emits registry (emitProperty registry property)
      fun registry => propertyPieces registry property
  | .mk key value span => by
      rw [property_writer, emitProperty]
      exact (emits_key key).chain ((emits_code ": ").chain (emits_operand value))

theorem emits_items : ∀ items : List Item,
    List.Forall₂ (Emits registry) (emitItems registry items)
      (items.map fun item registry => itemPieces registry item)
  | [] => by
      rw [emitItems]
      exact .nil
  | item :: rest => by
      rw [emitItems, List.map_cons]
      exact .cons (emits_item item) (emits_items rest)

theorem emits_item : ∀ item : Item,
    Emits registry (emitItem registry item) fun registry => itemPieces registry item
  | .raw text => by
      simp only [emitItem, itemPieces]
      exact emits_code text
  | .operand value => by
      simp only [emitItem, itemPieces]
      exact emits_operand value

end

/-! ## Portions -/

/-- What an entry of a list of nodes can be. -/
inductive Emittable where
  /-- Code pasted as it stands. -/
  | raw (text : String)
  | template (t : Template)
  | operand (value : Operand)
  /-- Nodes as an array. -/
  | many (children : List Template)

namespace Emittable

/-- The emitter of an entry. -/
def emit (registry : Registry) : Emittable → Emitter
  | .raw text => code text
  | .template t => emitTemplate registry t
  | .operand value => emitOperand registry value
  | .many children => array (emitChildren registry children)

/-- What writes the pieces of an entry. -/
def writer : Emittable → Writer
  | .raw text => plain [.code text]
  | .template t => fun registry => templatePieces registry t
  | .operand value => fun registry => operandPieces registry value
  | .many children => fun registry => (childrenPieces registry children).map bracketed

end Emittable

/-- Whatever is written on its own is emitted as its writer writes it. -/
theorem emits_entry (entry : Emittable) : Emits registry (entry.emit registry) entry.writer := by
  cases entry with
  | raw text => exact emits_code text
  | template t => exact emits_template t
  | operand value => exact emits_operand value
  | many children =>
      have written : (Emittable.many children).writer
          = enclosed [.code "["]
              (commas (fun child registry => templatePieces registry child) children) "]" := by
        funext registry
        exact childrenPieces_bracketed registry children
      rw [written, commas_map]
      exact Emits.array (emits_children children)

/-- A list of such things is emitted entry by entry. -/
theorem emits_entries (entries : List Emittable) :
    List.Forall₂ (Emits registry) (entries.map (Emittable.emit registry))
      (entries.map Emittable.writer) := by
  rw [List.forall₂_map_left_iff, List.forall₂_map_right_iff, List.forall₂_same]
  intro entry _
  exact emits_entry entry

/-- Whatever is written on its own. Texts, elements, interpolations and compounds are templates;
    calls, objects, arrays, atoms and compounds are operands; and both are entries. -/
inductive Portion where
  | entry (e : Emittable)
  | call (c : Call)
  | expression (content : Expr)
  | key (content : Expr)
  | list (comma : Bool) (entries : List Emittable)
  | array (entries : List Emittable)

namespace Portion

/-- The emitter of a portion. -/
def emit (registry : Registry) : Portion → Emitter
  | .entry e => e.emit registry
  | .call c => emitCall registry c
  | .expression content => emitExpr registry content
  | .key content => emitKey registry content
  | .list comma entries => Emitter.list comma (entries.map (Emittable.emit registry))
  | .array entries => Emitter.array (entries.map (Emittable.emit registry))

/-- What writes the pieces of a portion. -/
def writer : Portion → Writer
  | .entry e => e.writer
  | .call c => fun registry => callPieces registry c
  | .expression content => fun registry => exprPieces registry content
  | .key content => fun registry => keyPieces registry content
  | .list true entries => commas Emittable.writer entries
  | .list false entries => sequence (entries.map Emittable.writer)
  | .array entries => enclosed [.code "["] (commas Emittable.writer entries) "]"

end Portion

/-- **EVERY PORTION IS APPENDED** as it is written, to whatever stands in the buffer. -/
theorem emits_portion (portion : Portion) :
    Emits registry (portion.emit registry) portion.writer := by
  cases portion with
  | entry e => exact emits_entry e
  | call c => exact emits_call c
  | expression content => exact emits_expr content
  | key content => exact emits_key content
  | list comma entries =>
      cases comma with
      | true =>
          rw [Portion.writer, commas_map]
          exact Emits.commas (emits_entries entries)
      | false => exact Emits.sequence (emits_entries entries)
  | array entries =>
      rw [Portion.writer, commas_map]
      exact Emits.array (emits_entries entries)

/-! ## Two buffers -/

/-- What a portion has done to a buffer: it has written a text and moved over it, used helpers and
    added mappings, and left all else alone. No counter leaves a word of 32 bits on the way while
    the code has at most `2^32 - 2` bytes. -/
structure Grown (text : String) (helpers : List Helper) (new : List Mapping) (b after : Buffer) :
    Prop where
  code : after.code = b.code ++ text
  cursor : after.cursor = b.cursor.leap text
  depth : after.depth = b.depth
  options : after.options = b.options
  used : ∀ h, h ∈ after.used.toList ↔ h ∈ b.used.toList ∨ h ∈ helpers
  mappings : after.mappings = b.mappings ++ new
  fits : b.cursor = Cursor.endOf b.code → after.code.utf8ByteSize ≤ UInt32.size - 2 →
    ∀ before rest, text = before ++ rest → (b.cursor.leap before).Fits

/-- Two places that one text leads to from two starts: as far behind their starts by bytes and by
    lines, and by columns as long as the text has no line break, behind which columns are equal. -/
structure Moved (text : String) (p q m n : Cursor) : Prop where
  offset : (m.offset : Int) - p.offset = n.offset - q.offset
  line : (m.line : Int) - p.line = n.line - q.line
  column : if '\n' ∈ text.toList then m.column = n.column
    else (m.column : Int) - p.column = n.column - q.column

/-- Two mappings for the same origin, made behind the same beginning of a text that is written from
    two starts. -/
structure Counterpart (text : String) (p q : Cursor) (m n : Mapping) : Prop where
  origin : m.origin = n.origin
  moved : ∃ before rest, text = before ++ rest
    ∧ m.generated = p.leap before ∧ n.generated = q.leap before
    ∧ Moved before p q m.generated n.generated

/-- Writing the same text moves two cursors alike. -/
theorem moved_leap (text : String) (p q : Cursor) : Moved text p q (p.leap text) (q.leap text) := by
  constructor
  · simp only [Cursor.leap]
    omega
  · simp only [Cursor.leap]
    omega
  · simp only [Cursor.leap]
    by_cases broken : '\n' ∈ text.toList
    · rw [if_pos broken, if_pos broken, if_pos broken]
    · rw [if_neg broken, if_neg broken, if_neg broken]
      omega

/-- The mappings that pieces add to a buffer. -/
def Buffer.marked (b : Buffer) (ps : List Piece) : List Mapping :=
  if b.options.sourceMap then (placesOf ps).map (Place.mapping b.cursor) else []

/-- **APPENDING IS ALL THAT PIECES DO**. -/
theorem grown_addAll (b : Buffer) (ps : List Piece) :
    Grown (codeOf ps) (usesOf ps) (b.marked ps) b (b.addAll ps) where
  code := b.code_addAll ps
  cursor := by rw [b.cursor_addAll, Cursor.advance_eq_leap]
  depth := congrArg (fun front => front.2.2) (b.front_addAll ps)
  options := b.options_addAll ps
  used := by
    intro h
    rw [b.used_addAll, mem_foldl_insert]
  mappings := b.mappings_addAll ps
  fits := by
    intro atEnd short before rest split
    rw [b.code_addAll, split, ← String.append_assoc, String.utf8ByteSize_append] at short
    -- On the way the cursor is at the end of a beginning of the code.
    have reached : b.cursor.leap before = Cursor.endOf (b.code ++ before) := by
      rw [atEnd, ← Cursor.advance_eq_leap, ← Cursor.start_advance, ← Cursor.start_advance,
        Cursor.advance_append]
    rw [reached]
    exact Cursor.fits_endOf (Nat.le_trans (Nat.le_add_right _ _) short)

/-- The marks among pieces become counterparts wherever the pieces are appended. -/
theorem counterparts_marked {b c : Buffer} (same : b.options.sourceMap = c.options.sourceMap)
    (ps : List Piece) :
    List.Forall₂ (Counterpart (codeOf ps) b.cursor c.cursor) (b.marked ps) (c.marked ps) := by
  rw [Buffer.marked, Buffer.marked, same]
  split
  · rw [List.forall₂_map_left_iff, List.forall₂_map_right_iff, List.forall₂_same]
    -- Both mappings come from one mark, and the code before it has led to both.
    intro place member
    refine ⟨rfl, place.before, place.after, (before_append_after member).symm, ?_⟩
    simp only [Place.mapping, Cursor.advance_eq_leap]
    exact ⟨trivial, trivial, moved_leap _ _ _⟩
  · exact .nil

/-- **WRITING IS INDEPENDENT OF THE BUFFER**. A portion is emitted as its pieces are appended, and
    either it stops in every buffer with the same fault, or there are a text and helpers such that
    in any two buffers that want mappings alike:

    * the code grows by the text, the helpers are used, and levels and options stay;
    * the mappings grow by counterparts, which are for the same origins and stand apart as the two
      buffers' cursors do. -/
theorem emission_independent (portion : Portion) (registry : Registry) :
    (∀ b, portion.emit registry b = (portion.writer registry).map b.addAll)
    ∧ ((∃ f, ∀ b, portion.emit registry b = .error f)
      ∨ ∃ text helpers, ∀ b c : Buffer, b.options.sourceMap = c.options.sourceMap →
        ∃ ms ns b' c', portion.emit registry b = .ok b' ∧ portion.emit registry c = .ok c'
          ∧ Grown text helpers ms b b' ∧ Grown text helpers ns c c'
          ∧ List.Forall₂ (Counterpart text b.cursor c.cursor) ms ns) := by
  have emits : Emits registry (portion.emit registry) portion.writer := emits_portion portion
  refine ⟨emits, ?_⟩
  -- What is written is known before there is a buffer to write it into.
  cases written : portion.writer registry with
  | error f =>
      have stops : ∀ b, portion.emit registry b = .error f := by
        intro b
        rw [emits b, written]
        rfl
      exact .inl ⟨f, stops⟩
  | ok ps =>
      have run : ∀ b, portion.emit registry b = .ok (b.addAll ps) := by
        intro b
        rw [emits b, written]
        rfl
      refine .inr ⟨codeOf ps, usesOf ps, ?_⟩
      intro b c same
      exact ⟨b.marked ps, c.marked ps, _, _, run b, run c, grown_addAll b ps, grown_addAll c ps,
        counterparts_marked same ps⟩

/-- An atom with a line break, and a compound behind it that uses a helper. -/
def brokenPair : Portion :=
  .list true
    [.operand (.atom ⟨"a +\n  b", false, ⟨⟨3, 1, 4⟩, ⟨10, 2, 4⟩, "a +\n  b"⟩⟩),
      .template (.compound
        [.symbol ⟨6⟩, .raw "(", .atom ⟨"x", false, ⟨⟨14, 2, 8⟩, ⟨15, 2, 9⟩, "x"⟩⟩, .raw ")"] .stub)]

/-- Written into an empty buffer and into an indented one, the first mapping moves with the column
    and the second, behind the line break, does not. -/
theorem brokenPair_moved :
    let b := Buffer.empty ⟨false, "R", true⟩
    let c := (((Buffer.empty ⟨true, "G", true⟩).put "é\n").use Helper.fragment).indent
    ∃ text helpers ms ns b' c',
      brokenPair.emit .initial b = .ok b' ∧ brokenPair.emit .initial c = .ok c'
      ∧ Grown text helpers ms b b' ∧ Grown text helpers ns c c'
      ∧ List.Forall₂ (Counterpart text b.cursor c.cursor) ms ns
      ∧ ms.map (·.generated.column) = [1, 22] ∧ ns.map (·.generated.column) = [3, 22] := by
  intro b c
  rcases (emission_independent brokenPair .initial).2 with ⟨f, stops⟩ | ⟨text, helpers, grows⟩
  · exact nomatch stops b
  · obtain ⟨ms, ns, b', c', first, second, grown, grown', counterparts⟩ := grows b c rfl
    have columns : b'.mappings.map (·.generated.column) = [1, 22] := by
      rw [← Except.ok.inj first]
      rfl
    have columns' : c'.mappings.map (·.generated.column) = [3, 22] := by
      rw [← Except.ok.inj second]
      rfl
    rw [grown.mappings] at columns
    rw [grown'.mappings] at columns'
    exact ⟨text, helpers, ms, ns, b', c', first, second, grown, grown', counterparts, columns,
      columns'⟩

end Vdom.Emit
