import Vdom.Proofs.Settings
/-!
# Stripped templates — locations and dead parts never reach the code

A template carries more than its code needs: where every node stands, the children that elements
were parsed with, and the names of elements whose plan is known. Stripping takes all of that away,
and what is left decides code and helpers (`generate_alike`).

* **`Root.stripped`** — a template without its locations and dead parts.
* **`unmarked`** — pieces without their marks; code and uses are those of the unmarked pieces.
* **`template_stripped`** — a stripped node is written as the unmarked pieces of the node, by
  recursion on the tree, with one lemma for each way in which writers are put together.
-/

namespace Vdom

/-! ## Stripping -/

/-- An atom that stands nowhere. -/
def Atom.stripped (a : Atom) : Atom := { a with span := .stub }

mutual

/-- An expression without locations. -/
def Expr.stripped : Expr → Expr
  | .atom a => .atom a.stripped
  | .compound parts _ => .compound (strippedParts parts) .stub

/-- A part of a compound without locations. -/
def Part.stripped : Part → Part
  | .atom a => .atom a.stripped
  | .compound parts _ => .compound (strippedParts parts) .stub
  | .interpolation content _ => .interpolation content.stripped .stub
  | .text content _ => .text content .stub
  | .raw code => .raw code
  | .symbol helper => .symbol helper

/-- The parts of a compound without locations. -/
def strippedParts : List Part → List Part
  | [] => []
  | part :: rest => part.stripped :: strippedParts rest

end

/-- The name that is left of an element: only one without a plan is named in a report. -/
def Plan.namesake (tag : String) : Plan → String
  | .missing => tag
  | .call _ => ""
  | .atom _ => ""

mutual

/-- A node without locations, parsed children, and the name of an element that has a plan. -/
def Template.stripped : Template → Template
  | .element tag _ plan _ => .element (plan.namesake tag) [] plan.stripped .stub
  | .text content _ => .text content .stub
  | .interpolation content _ => .interpolation content.stripped .stub
  | .compound parts _ => .compound (strippedParts parts) .stub

/-- A plan without locations. -/
def Plan.stripped : Plan → Plan
  | .missing => .missing
  | .call c => .call c.stripped
  | .atom a => .atom a.stripped

/-- A call without locations. -/
def Call.stripped : Call → Call
  | .mk tag props content _ => .mk tag (strippedProps props) content.stripped .stub

/-- The props of a call without locations. -/
def strippedProps : Option Operand → Option Operand
  | none => none
  | some value => some value.stripped

/-- The children of a call without locations. -/
def Content.stripped : Content → Content
  | .absent => .absent
  | .many children => .many (strippedAll children)
  | .one child => .one child.stripped
  | .operand value => .operand value.stripped

/-- Nodes without locations. -/
def strippedAll : List Template → List Template
  | [] => []
  | child :: rest => child.stripped :: strippedAll rest

/-- A value without locations. -/
def Operand.stripped : Operand → Operand
  | .call c => .call c.stripped
  | .object properties _ => .object (strippedProperties properties) .stub
  | .array items _ => .array (strippedItems items) .stub
  | .atom a => .atom a.stripped
  | .compound parts _ => .compound (strippedParts parts) .stub

/-- Properties without locations. -/
def strippedProperties : List Property → List Property
  | [] => []
  | property :: rest => property.stripped :: strippedProperties rest

/-- A property without locations. -/
def Property.stripped : Property → Property
  | .mk key value _ => .mk key.stripped value.stripped .stub

/-- Items without locations. -/
def strippedItems : List Item → List Item
  | [] => []
  | item :: rest => item.stripped :: strippedItems rest

/-- An item without locations. -/
def Item.stripped : Item → Item
  | .raw code => .raw code
  | .operand value => .operand value.stripped

end

/-- A template without its source, its locations and what is not written of it. -/
def Root.stripped (root : Root) : Root :=
  { children := strippedAll root.children, helpers := root.helpers, source := "", span := .stub }

/-- Nodes in a list are stripped one by one. -/
theorem strippedAll_eq (children : List Template) :
    strippedAll children = children.map Template.stripped := by
  induction children with
  | nil => rfl
  | cons child rest ih => rw [strippedAll, ih, List.map_cons]

theorem strippedProperties_eq (properties : List Property) :
    strippedProperties properties = properties.map Property.stripped := by
  induction properties with
  | nil => rfl
  | cons property rest ih => rw [strippedProperties, ih, List.map_cons]

theorem strippedItems_eq (items : List Item) : strippedItems items = items.map Item.stripped := by
  induction items with
  | nil => rfl
  | cons item rest ih => rw [strippedItems, ih, List.map_cons]

end Vdom

namespace Vdom.Emit

open Writer (chain enclosed)

/-! ## Pieces without marks -/

/-- Whether a piece is a mark. -/
def Piece.isMark : Piece → Bool
  | .mark _ => true
  | _ => false

/-- Pieces without their marks. -/
def unmarked (ps : List Piece) : List Piece := ps.filter fun p => !p.isMark

@[simp] theorem unmarked_append (ps qs : List Piece) :
    unmarked (ps ++ qs) = unmarked ps ++ unmarked qs :=
  List.filter_append ps qs

/-- Without its mark a text stands nowhere. -/
@[simp] theorem unmarked_spanned (text : String) (span : Span) :
    unmarked (Piece.spanned text span) = Piece.spanned text .stub := by
  rw [Piece.spanned]
  split <;> rfl

/-- Nodes with parts mark their place before they open a bracket. -/
theorem unmarked_opened (text : String) (span : Span) (bracket : String) :
    unmarked (Piece.spanned text span ++ [.code bracket])
      = Piece.spanned text .stub ++ [.code bracket] := by
  rw [unmarked_append, unmarked_spanned]
  rfl

/-- The code of pieces does not see their marks, nor do the uses. -/
@[simp] theorem codeOf_unmarked (ps : List Piece) : codeOf (unmarked ps) = codeOf ps := by
  induction ps with
  | nil => rfl
  | cons p ps ih =>
      cases p with
      | code text => exact congrArg (text ++ ·) ih
      | mark origin => exact ih
      | use helper => exact ih

@[simp] theorem usesOf_unmarked (ps : List Piece) : usesOf (unmarked ps) = usesOf ps := by
  induction ps with
  | nil => rfl
  | cons p ps ih =>
      cases p with
      | code text => exact ih
      | mark origin => exact ih
      | use helper => exact congrArg (helper :: ·) ih

/-! ## Writers without marks -/

namespace Writer

/-- A writer that leaves no marks. -/
def unmarked (w : Writer) : Writer := fun registry => (w registry).map Emit.unmarked

/-- A chain without marks is the chain of its writers without theirs. -/
theorem unmarked_chain (w x : Writer) : (chain w x).unmarked = chain w.unmarked x.unmarked := by
  funext registry
  simp only [unmarked, chain]
  cases w registry with
  | error f => rfl
  | ok ps =>
      cases x registry with
      | error f => rfl
      | ok qs => exact congrArg Except.ok (unmarked_append ps qs)

/-- What stands between brackets loses its marks, and so does what opens them. -/
theorem unmarked_enclosed (before : List Piece) (w : Writer) (after : String) :
    (enclosed before w after).unmarked = enclosed (Emit.unmarked before) w.unmarked after := by
  funext registry
  simp only [unmarked, enclosed]
  cases w registry with
  | error f => rfl
  | ok ps =>
      show Except.ok (Emit.unmarked (before ++ (ps ++ [.code after]))) = Except.ok _
      rw [unmarked_append, unmarked_append]
      rfl

/-- A list with commas is written without marks if its entries are. -/
theorem unmarked_commas {α : Type} (strip : α → α) (write : α → Writer) :
    ∀ xs : List α, (∀ x ∈ xs, write (strip x) = (write x).unmarked) →
      commas write (xs.map strip) = (commas write xs).unmarked := by
  intro xs
  induction xs with
  | nil => intro _; rfl
  | cons x xs ih =>
      intro each
      have first := each x List.mem_cons_self
      have others := ih fun y hy => each y (List.mem_cons_of_mem x hy)
      -- A comma is written only if another element follows, and stripping leaves as many.
      cases xs with
      | nil => rw [List.map_cons, List.map_nil, commas_single, commas_single, first]
      | cons y rest =>
          rw [List.map_cons] at others ⊢
          rw [List.map_cons, commas_cons, commas_cons, unmarked_chain, unmarked_chain, first,
            others]
          rfl

end Writer

/-- An argument without marks. -/
def Slot.unmarked (slot : Slot) : Slot := fun registry =>
  (slot registry).map (Option.map Emit.unmarked)

/-- An argument that is there is written without marks if its writer is. -/
theorem slot_stripped {w x : Writer} (h : w = x.unmarked) :
    (fun registry => (w registry).map some)
      = Slot.unmarked fun registry => (x registry).map some := by
  funext registry
  rw [h, Writer.unmarked, Slot.unmarked]
  cases x registry with
  | error f => rfl
  | ok ps => rfl

theorem unmarked_commaSeparated (runs : List (List Piece)) :
    unmarked (commaSeparated runs) = commaSeparated (runs.map unmarked) := by
  induction runs with
  | nil => rfl
  | cons run rest ih =>
      cases rest with
      | nil => rfl
      | cons next rest =>
          rw [commaSeparated, unmarked_append]
          exact congrArg (unmarked run ++ .code ", " :: ·) ih
          all_goals exact nofun

/-- Which arguments are left out does not depend on marks. -/
theorem unmarked_arguments (first : Writer) (second third : Slot) :
    (arguments first second third).unmarked
      = arguments first.unmarked second.unmarked third.unmarked := by
  funext registry
  simp only [Writer.unmarked, Slot.unmarked, arguments]
  cases first registry with
  | error f => rfl
  | ok ps =>
      cases second registry with
      | error f => rfl
      | ok qs =>
          cases third registry with
          | error f => rfl
          | ok rs =>
              show Except.ok (unmarked (commaSeparated _)) = Except.ok (commaSeparated _)
              rw [unmarked_commaSeparated]
              cases qs <;> cases rs <;> rfl

/-! ## Stripped nodes -/

/-- An atom that stands nowhere has the text of the atom and no mark. -/
theorem atom_stripped (a : Atom) : atomPieces a.stripped = unmarked (atomPieces a) :=
  (unmarked_spanned (atomText a) a.span).symm

theorem text_stripped (content : String) (span : Span) :
    Piece.spanned (quote content) .stub = unmarked (Piece.spanned (quote content) span) :=
  (unmarked_spanned (quote content) span).symm

/-- The name of a helper is written without marks in any case. -/
theorem symbol_stripped (helper : Helper) :
    (fun registry => symbolPieces registry helper)
      = Writer.unmarked fun registry => symbolPieces registry helper := by
  funext registry
  simp only [Writer.unmarked, symbolPieces]
  cases registry.resolve helper with
  | error f => rfl
  | ok name => rfl

mutual

theorem expr_stripped : ∀ content : Expr,
    (fun registry => exprPieces registry content.stripped)
      = Writer.unmarked fun registry => exprPieces registry content
  | .atom a => by
      simp only [Expr.stripped, exprPieces, atom_stripped]
      rfl
  | .compound parts span => by
      simp only [Expr.stripped, exprPieces]
      exact parts_stripped parts

theorem part_stripped : ∀ part : Part,
    (fun registry => partPieces registry part.stripped)
      = Writer.unmarked fun registry => partPieces registry part
  | .atom a => by
      simp only [Part.stripped, partPieces, atom_stripped]
      rfl
  | .compound parts span => by
      simp only [Part.stripped, partPieces]
      exact parts_stripped parts
  | .interpolation content span => by
      simp only [Part.stripped, partPieces]
      exact expr_stripped content
  | .text content span => by
      simp only [Part.stripped, partPieces, text_stripped content span]
      rfl
  | .raw code => by
      simp only [Part.stripped, partPieces]
      rfl
  | .symbol helper => by
      simp only [Part.stripped, partPieces]
      exact symbol_stripped helper

/-- The parts of a compound lose their marks one by one. -/
theorem parts_stripped : ∀ parts : List Part,
    (fun registry => partsPieces registry (strippedParts parts))
      = Writer.unmarked fun registry => partsPieces registry parts
  | [] => rfl
  | part :: rest => by
      rw [strippedParts, parts_cons, parts_cons, Writer.unmarked_chain, part_stripped part,
        parts_stripped rest]

end

/-- A key is quoted or computed whether or not it stands anywhere. -/
theorem key_stripped : ∀ key : Expr,
    (fun registry => keyPieces registry key.stripped)
      = Writer.unmarked fun registry => keyPieces registry key
  | .atom a => by
      funext registry
      simp only [Expr.stripped, Atom.stripped, Writer.unmarked, keyPieces]
      split
      · exact congrArg Except.ok (atom_stripped a)
      · show Except.ok _ = Except.ok (unmarked (_ ++ [.code a.content, .code "]"]))
        rw [unmarked_append, unmarked_spanned]
        rfl
  | .compound parts span => by
      rw [Expr.stripped, key_computed, key_computed, parts_stripped, Writer.unmarked_enclosed]
      rfl

theorem tag_stripped : ∀ tag : Tag,
    (fun registry => tagPieces registry tag)
      = Writer.unmarked fun registry => tagPieces registry tag
  | .name _ => rfl
  | .dynamic _ => rfl
  | .symbol helper => symbol_stripped helper

mutual

/-- **STRIPPING TAKES MARKS AWAY** and nothing else that is written. -/
theorem template_stripped : ∀ t : Template,
    (fun registry => templatePieces registry t.stripped)
      = Writer.unmarked fun registry => templatePieces registry t
  | .element tag parsed plan span => by
      simp only [Template.stripped, templatePieces]
      exact plan_stripped tag plan
  | .text content span => by
      simp only [Template.stripped, templatePieces, text_stripped content span]
      rfl
  | .interpolation content span => by
      simp only [Template.stripped, templatePieces]
      exact expr_stripped content
  | .compound parts span => by
      simp only [Template.stripped, templatePieces]
      exact parts_stripped parts

/-- The name of an element is kept where it is reported: where the plan is missing. -/
theorem plan_stripped (tag : String) : ∀ plan : Plan,
    (fun registry => planPieces registry (plan.namesake tag) plan.stripped)
      = Writer.unmarked fun registry => planPieces registry tag plan
  | .missing => by
      simp only [Plan.stripped, Plan.namesake, planPieces]
      rfl
  | .call c => by
      simp only [Plan.stripped, planPieces]
      exact call_stripped c
  | .atom a => by
      simp only [Plan.stripped, planPieces, atom_stripped]
      rfl

/-- A call without locations has the same arguments, less the marks. -/
theorem call_stripped : ∀ c : Call,
    (fun registry => callPieces registry c.stripped)
      = Writer.unmarked fun registry => callPieces registry c
  | .mk tag props content span => by
      show (Site.call (.mk tag (strippedProps props) content.stripped .stub)).writer
        = Writer.unmarked (Site.call (.mk tag props content span)).writer
      rw [call_writer, call_writer, Writer.unmarked_enclosed, unmarked_arguments,
        unmarked_opened, ← tag_stripped tag, props_stripped props, content_stripped content]

/-- Stripping neither adds nor takes away props. -/
theorem props_stripped : ∀ props : Option Operand,
    (fun registry => propsPieces registry (strippedProps props))
      = Slot.unmarked fun registry => propsPieces registry props
  | none => by
      simp only [strippedProps, propsPieces]
      rfl
  | some value => by
      simp only [strippedProps, propsPieces]
      exact slot_stripped (operand_stripped value)

/-- Stripping neither adds nor takes away children. -/
theorem content_stripped : ∀ content : Content,
    (fun registry => contentPieces registry content.stripped)
      = Slot.unmarked fun registry => contentPieces registry content
  | .absent => by
      simp only [Content.stripped, contentPieces]
      rfl
  | .many children => by
      rw [Content.stripped, content_many, content_many, strippedAll_eq]
      refine slot_stripped ?_
      rw [Writer.unmarked_enclosed, Writer.unmarked_commas Template.stripped
        (fun child registry => templatePieces registry child) children (children_stripped children)]
      rfl
  | .one child => by
      simp only [Content.stripped, contentPieces]
      exact slot_stripped (template_stripped child)
  | .operand value => by
      simp only [Content.stripped, contentPieces]
      exact slot_stripped (operand_stripped value)

theorem children_stripped : ∀ children : List Template, ∀ child ∈ children,
    (fun registry => templatePieces registry child.stripped)
      = Writer.unmarked fun registry => templatePieces registry child
  | [], _, h => nomatch h
  | first :: rest, child, h => by
      rcases List.mem_cons.mp h with h | h
      · exact h ▸ template_stripped first
      · exact children_stripped rest child h

/-- A value without locations is written as before, less the marks; an object stays empty if it is.
    -/
theorem operand_stripped : ∀ value : Operand,
    (fun registry => operandPieces registry value.stripped)
      = Writer.unmarked fun registry => operandPieces registry value
  | .call c => by
      simp only [Operand.stripped, operandPieces]
      exact call_stripped c
  | .object properties span => by
      have inner := Writer.unmarked_commas Property.stripped
        (fun property registry => propertyPieces registry property) properties
        (properties_stripped properties)
      show (Site.object (strippedProperties properties) .stub).writer
        = Writer.unmarked (Site.object properties span).writer
      rw [strippedProperties_eq]
      cases properties with
      | nil =>
          -- An object without properties is one text and opens no bracket.
          funext registry
          exact congrArg Except.ok (unmarked_spanned "\x7b\x7d" span).symm
      | cons property rest =>
          rw [List.map_cons] at inner ⊢
          rw [object_writer, object_writer, Writer.unmarked_enclosed, unmarked_spanned, inner]
  | .array items span => by
      have inner := Writer.unmarked_commas Item.stripped
        (fun item registry => itemPieces registry item) items (items_stripped items)
      show (Site.array (strippedItems items) .stub).writer
        = Writer.unmarked (Site.array items span).writer
      rw [strippedItems_eq, array_writer, array_writer, Writer.unmarked_enclosed, unmarked_opened,
        inner]
  | .atom a => by
      simp only [Operand.stripped, operandPieces, atom_stripped]
      rfl
  | .compound parts span => by
      simp only [Operand.stripped, operandPieces]
      exact parts_stripped parts

theorem properties_stripped : ∀ properties : List Property, ∀ property ∈ properties,
    (fun registry => propertyPieces registry property.stripped)
      = Writer.unmarked fun registry => propertyPieces registry property
  | [], _, h => nomatch h
  | first :: rest, property, h => by
      rcases List.mem_cons.mp h with h | h
      · exact h ▸ property_stripped first
      · exact properties_stripped rest property h

/-- The colon of a property has no mark to lose. -/
theorem property_stripped : ∀ property : Property,
    (fun registry => propertyPieces registry property.stripped)
      = Writer.unmarked fun registry => propertyPieces registry property
  | .mk key value span => by
      rw [Property.stripped, property_writer, property_writer, Writer.unmarked_chain,
        Writer.unmarked_chain, key_stripped key, operand_stripped value]
      rfl

theorem items_stripped : ∀ items : List Item, ∀ item ∈ items,
    (fun registry => itemPieces registry item.stripped)
      = Writer.unmarked fun registry => itemPieces registry item
  | [], _, h => nomatch h
  | first :: rest, item, h => by
      rcases List.mem_cons.mp h with h | h
      · exact h ▸ item_stripped first
      · exact items_stripped rest item h

theorem item_stripped : ∀ item : Item,
    (fun registry => itemPieces registry item.stripped)
      = Writer.unmarked fun registry => itemPieces registry item
  | .raw code => by
      simp only [Item.stripped, itemPieces]
      rfl
  | .operand value => by
      simp only [Item.stripped, itemPieces]
      exact operand_stripped value

end

/-! ## Render functions -/

/-- What a stripped template returns is what the template returns, without marks. -/
theorem returned_stripped : ∀ children : List Template,
    (fun registry => returned registry (strippedAll children))
      = Writer.unmarked fun registry => returned registry children
  | [] => rfl
  | [child] => template_stripped child
  | first :: second :: rest => by
      have inner := Writer.unmarked_commas Template.stripped
        (fun child registry => templatePieces registry child) (first :: second :: rest)
        (children_stripped (first :: second :: rest))
      rw [strippedAll_eq]
      simp only [List.map_cons] at inner ⊢
      rw [returned_several, returned_several, inner, Writer.unmarked_enclosed,
        Writer.unmarked_chain, Writer.unmarked_chain, Writer.unmarked_enclosed, ← tag_stripped]
      rfl

/-- Stripping keeps the number of roots and the list of helpers, which decide what is bound. -/
theorem boundHelpers_stripped (root : Root) : boundHelpers root.stripped = boundHelpers root := by
  rw [boundHelpers, boundHelpers, Root.stripped, strippedAll_eq, List.length_map]

/-- What a result shows of its template: its code and its helpers. -/
def Generated.shown (g : Generated) : String × List Helper := (g.code, g.helpers)

/-- **ONE RUN**: a template shows what its stripped form shows without mappings. -/
theorem generate_stripped (registry : Registry) (o : Options) (root : Root) :
    (generate registry { o with sourceMap := false } root.stripped).map Generated.shown
      = (generate registry o root).map Generated.shown := by
  have body : returned registry root.stripped.children
      = (returned registry root.children).map unmarked :=
    congrFun (returned_stripped root.children) registry
  rw [generate_eq, generate_eq, boundHelpers_stripped, body]
  cases (boundHelpers root).mapM registry.resolve with
  | error f => rfl
  | ok found =>
      cases returned registry root.children with
      | error f => rfl
      | ok body =>
          show Except.ok (Generated.shown _) = Except.ok (Generated.shown _)
          simp only [result_framed, Generated.shown, codeOf_unmarked, usesOf_unmarked]
          rfl

/-- Results that show the same fail alike, or succeed with the same code and helpers. -/
theorem alike_of_shown {a b : Except Fault Generated}
    (h : a.map Generated.shown = b.map Generated.shown) :
    (∃ f, a = .error f ∧ b = .error f)
    ∨ ∃ g h, a = .ok g ∧ b = .ok h ∧ g.code = h.code ∧ g.helpers = h.helpers := by
  cases a with
  | error f =>
      cases b with
      | error e => exact .inl ⟨f, rfl, by rw [Except.error.inj h]⟩
      | ok g => exact nomatch h
  | ok g =>
      cases b with
      | error e => exact nomatch h
      | ok g' =>
          have same : (g.code, g.helpers) = (g'.code, g'.helpers) := Except.ok.inj h
          exact .inr ⟨g, g', rfl, rfl, congrArg Prod.fst same, congrArg Prod.snd same⟩

/-- **LOCATIONS AND DEAD PARTS NEVER REACH THE CODE**: two templates that are the same when
    stripped, written with options that differ at most in whether mappings are wanted, fail with
    the same fault or succeed with the same code and the same helpers. Without mappings wanted
    there are none. -/
theorem generate_alike (registry : Registry) {r s : Root} {o p : Options}
    (same : r.stripped = s.stripped)
    (alike : { o with sourceMap := false } = { p with sourceMap := false }) :
    ((∃ f, generate registry o r = .error f ∧ generate registry p s = .error f)
      ∨ ∃ g h, generate registry o r = .ok g ∧ generate registry p s = .ok h
        ∧ g.code = h.code ∧ g.helpers = h.helpers)
    ∧ ∀ g, generate registry o r = .ok g → o.sourceMap = false → g.mappings = [] := by
  constructor
  · -- Both runs show what the one stripped template shows without mappings.
    refine alike_of_shown ?_
    rw [← generate_stripped registry o r, ← generate_stripped registry p s, same, alike]
  · intro g written unwanted
    obtain ⟨found, body, -, -, rfl⟩ := generate_ok written
    rw [result_framed, unwanted]
    rfl

/-- An element with two children, whose name, parsed children, places and source may vary. -/
def placed (tag : String) (parsed : List Template) (place : UInt32 → Span) (source : String) :
    Root :=
  let count : Expr :=
    .compound [.symbol ⟨6⟩, .raw "(", .atom ⟨"n", false, place 1⟩, .raw ")"] (place 2)
  let call : Call := .mk (.name "p") none
    (.many [.text "a" (place 3), .interpolation count (place 4)]) (place 5)
  { children := [.element tag parsed (.call call) (place 6)]
    helpers := [⟨6⟩], source, span := place 7 }

/-- A name, an element without a plan among the parsed children, and places all over the source, or
    nothing of it. -/
theorem placed_alike :
    ∃ g h,
      generate .initial ⟨true, "R", false⟩
          (placed "p" [.element "q" [] .missing .stub] (fun n => ⟨⟨n, 1, n⟩, ⟨9, 1, 9⟩, "a"⟩) "<p>")
        = .ok g
      ∧ generate .initial ⟨true, "R", true⟩ (placed "" [] (fun _ => .stub) "") = .ok h
      ∧ g.code = h.code ∧ g.helpers = h.helpers ∧ g.mappings = [] := by
  have alike := generate_alike .initial (o := ⟨true, "R", false⟩) (p := ⟨true, "R", true⟩)
    (r := placed "p" [.element "q" [] .missing .stub] (fun n => ⟨⟨n, 1, n⟩, ⟨9, 1, 9⟩, "a"⟩) "<p>")
    (s := placed "" [] (fun _ => .stub) "") rfl rfl
  obtain ⟨⟨f, -, failed⟩ | ⟨g, h, hg, hh, code, helpers⟩, unmapped⟩ := alike
  · exact nomatch failed
  · exact ⟨g, h, hg, hh, code, helpers, unmapped g hg rfl⟩

end Vdom.Emit
