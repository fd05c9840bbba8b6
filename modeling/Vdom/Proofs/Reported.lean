import Vdom.Proofs.Demands
import Vdom.Proofs.Settings
/-!
# Reported helpers — exactly those that the code refers to

A result lists helpers by ascending number. They are those that the template is known to need, the
fragment of several roots, and those that the emitted tree refers to, wherever in it they hide.

* **`Template.Refers`** — a node refers to a helper: one rule for each place in which a reference
  can stand. There is none for parsed children, so what only they mention is not referred to.
* **`Layout.uses`** — writing uses the helpers whose names its visits demand, in order.
* **`template_refers`** — the names demanded of a node are those of the helpers it refers to.
* **`generate_helpers`** — the main theorem.
-/

namespace Vdom

/-! ## References -/

mutual

/-- An expression refers to a helper. -/
inductive Expr.Refers (h : Helper) : Expr → Prop where
  | part {part : Part} {parts : List Part} {span : Span} :
      part ∈ parts → part.Refers h → Expr.Refers h (.compound parts span)

/-- A part of a compound refers to a helper. -/
inductive Part.Refers (h : Helper) : Part → Prop where
  | symbol : Part.Refers h (.symbol h)
  | part {part : Part} {parts : List Part} {span : Span} :
      part ∈ parts → part.Refers h → Part.Refers h (.compound parts span)
  | interpolation {content : Expr} {span : Span} :
      content.Refers h → Part.Refers h (.interpolation content span)

end

mutual

/-- A node refers to a helper, through its plan if it is an element. -/
inductive Template.Refers (h : Helper) : Template → Prop where
  | plan {tag : String} {parsed : List Template} {call : Call} {span : Span} :
      call.Refers h → Template.Refers h (.element tag parsed (.call call) span)
  | interpolation {content : Expr} {span : Span} :
      content.Refers h → Template.Refers h (.interpolation content span)
  | part {part : Part} {parts : List Part} {span : Span} :
      part ∈ parts → part.Refers h → Template.Refers h (.compound parts span)

/-- A call refers to a helper. -/
inductive Call.Refers (h : Helper) : Call → Prop where
  | tag {props : Option Operand} {content : Content} {span : Span} :
      Call.Refers h (.mk (.symbol h) props content span)
  | props {tag : Tag} {value : Operand} {content : Content} {span : Span} :
      value.Refers h → Call.Refers h (.mk tag (some value) content span)
  | content {tag : Tag} {props : Option Operand} {content : Content} {span : Span} :
      content.Refers h → Call.Refers h (.mk tag props content span)

/-- The children of a call refer to a helper. -/
inductive Content.Refers (h : Helper) : Content → Prop where
  | many {child : Template} {children : List Template} :
      child ∈ children → child.Refers h → Content.Refers h (.many children)
  | one {child : Template} : child.Refers h → Content.Refers h (.one child)
  | operand {value : Operand} : value.Refers h → Content.Refers h (.operand value)

/-- A value refers to a helper. -/
inductive Operand.Refers (h : Helper) : Operand → Prop where
  | call {call : Call} : call.Refers h → Operand.Refers h (.call call)
  | property {property : Property} {properties : List Property} {span : Span} :
      property ∈ properties → property.Refers h → Operand.Refers h (.object properties span)
  | item {item : Item} {items : List Item} {span : Span} :
      item ∈ items → item.Refers h → Operand.Refers h (.array items span)
  | part {part : Part} {parts : List Part} {span : Span} :
      part ∈ parts → part.Refers h → Operand.Refers h (.compound parts span)

/-- A property refers to a helper, in its key or in its value. -/
inductive Property.Refers (h : Helper) : Property → Prop where
  | key {key : Expr} {value : Operand} {span : Span} :
      key.Refers h → Property.Refers h (.mk key value span)
  | value {key : Expr} {value : Operand} {span : Span} :
      value.Refers h → Property.Refers h (.mk key value span)

/-- An item of an array refers to a helper. -/
inductive Item.Refers (h : Helper) : Item → Prop where
  | operand {value : Operand} : value.Refers h → Item.Refers h (.operand value)

end

end Vdom

namespace Vdom.Emit

/-! ## Names that visits demand -/

/-- The name of a helper is among the demands of visits. -/
def Demanded (h : Helper) (vs : List Visit) : Prop := Demand.name h ∈ vs.flatMap Visit.demands

variable {h : Helper}

@[simp] theorem demanded_nil : ¬ Demanded h [] := nofun

/-- What is demanded of visits is demanded of one part of them or of the other. -/
@[simp] theorem demanded_append (vs us : List Visit) :
    Demanded h (vs ++ us) ↔ Demanded h vs ∨ Demanded h us := by
  rw [Demanded, List.flatMap_append, List.mem_append]
  rfl

@[simp] theorem demanded_site (s : Site) (vs : List Visit) :
    Demanded h (.site s :: vs) ↔ Demanded h vs := Iff.rfl

@[simp] theorem demanded_element (tag : String) (planned : Bool) (vs : List Visit) :
    Demanded h (.element tag planned :: vs) ↔ Demanded h vs := by
  simp [Demanded, Visit.demands]

/-- Of all tags, only one that is a helper demands a name. -/
@[simp] theorem demanded_tag (t : Tag) (vs : List Visit) :
    Demanded h (.tag t :: vs) ↔ t = .symbol h ∨ Demanded h vs := by
  cases t <;> simp [Demanded, Visit.demands, eq_comm]

/-! ## Names that nodes demand -/

mutual

/-- An expression refers to the helpers that its fragments demand. -/
theorem expr_fragments : ∀ content : Expr,
    content.Refers h ↔ Demand.name h ∈ content.fragments.flatMap Fragment.demands
  | .atom a => iff_of_false nofun nofun
  | .compound parts span => by
      rw [Expr.fragments, ← parts_fragments parts]
      constructor
      · rintro ⟨there, refers⟩
        exact ⟨_, there, refers⟩
      · rintro ⟨part, there, refers⟩
        exact .part there refers

/-- A part refers to a helper if it is one, or if what is nested in it does. -/
theorem part_fragments : ∀ part : Part,
    part.Refers h ↔ Demand.name h ∈ part.fragments.flatMap Fragment.demands
  | .atom a => iff_of_false nofun nofun
  | .compound parts span => by
      rw [Part.fragments, ← parts_fragments parts]
      constructor
      · rintro (_ | ⟨there, refers⟩)
        exact ⟨_, there, refers⟩
      · rintro ⟨part, there, refers⟩
        exact .part there refers
  | .interpolation content span => by
      rw [Part.fragments, ← expr_fragments content]
      constructor
      · rintro (_ | _ | refers)
        exact refers
      · exact .interpolation
  | .text content span => iff_of_false nofun nofun
  | .raw code => iff_of_false nofun nofun
  | .symbol helper => by
      rw [Part.fragments, List.flatMap_singleton, Fragment.demands, List.mem_singleton]
      constructor
      · rintro ⟨⟩
        rfl
      · rintro ⟨⟩
        exact .symbol

theorem parts_fragments : ∀ parts : List Part,
    (∃ part ∈ parts, part.Refers h) ↔ Demand.name h ∈ (fragmentsOf parts).flatMap Fragment.demands
  | [] => by simp [fragmentsOf]
  | part :: rest => by
      rw [fragmentsOf, List.flatMap_append, List.mem_append, ← part_fragments part,
        ← parts_fragments rest]
      simp only [List.mem_cons, exists_eq_or_imp]

end

/-- A compound demands the names of the helpers in its parts. -/
theorem demanded_compound (parts : List Part) :
    Demanded h [.compound parts] ↔ ∃ part ∈ parts, part.Refers h := by
  rw [parts_fragments, Demanded, List.flatMap_singleton]
  rfl

/-- What an expression refers to is demanded when it is visited. -/
theorem expr_visits : ∀ content : Expr, content.Refers h ↔ Demanded h content.visits
  | .atom a => iff_of_false nofun nofun
  | .compound parts span => by
      rw [Expr.visits, demanded_compound]
      constructor
      · rintro ⟨there, refers⟩
        exact ⟨_, there, refers⟩
      · rintro ⟨part, there, refers⟩
        exact .part there refers

/-- As a key an expression refers to what it refers to as a value. -/
theorem expr_keyVisits : ∀ key : Expr, key.Refers h ↔ Demanded h key.keyVisits
  | .atom a => expr_visits (.atom a)
  | .compound parts span => expr_visits (.compound parts span)

mutual

/-- **NAMES DEMANDED ARE NAMES REFERRED TO**, by recursion on the emitted tree. -/
theorem template_refers : ∀ t : Template, t.Refers h ↔ Demanded h t.visits
  | .element tag parsed .missing span => by
      rw [Template.visits, Plan.visits, demanded_element]
      exact iff_of_false nofun nofun
  | .element tag parsed (.atom a) span => by
      rw [Template.visits, Plan.visits, demanded_element, demanded_site]
      exact iff_of_false nofun nofun
  -- Of an element only its plan counts; what was parsed in it is not visited.
  | .element tag parsed (.call c) span => by
      rw [Template.visits, Plan.visits, demanded_element, ← call_refers c]
      constructor
      · rintro ⟨refers⟩
        exact refers
      · exact .plan
  | .text content span => iff_of_false nofun nofun
  | .interpolation content span => by
      rw [Template.visits, ← expr_visits content]
      constructor
      · rintro (_ | refers)
        exact refers
      · exact .interpolation
  | .compound parts span => by
      rw [Template.visits, demanded_compound]
      constructor
      · rintro (_ | _ | ⟨there, refers⟩)
        exact ⟨_, there, refers⟩
      · rintro ⟨part, there, refers⟩
        exact .part there refers

/-- A call refers to a helper by its tag, its props or its children, and demands them in this order.
    -/
theorem call_refers : ∀ c : Call, c.Refers h ↔ Demanded h c.visits
  | .mk tag props content span => by
      rw [Call.visits, demanded_site, demanded_tag, demanded_append, ← props_refers props,
        ← content_refers content]
      constructor
      · rintro (_ | refers | refers)
        · exact .inl rfl
        · exact .inr (.inl ⟨_, rfl, refers⟩)
        · exact .inr (.inr refers)
      · rintro (rfl | ⟨value, rfl, refers⟩ | refers)
        · exact .tag
        · exact .props refers
        · exact .content refers

theorem props_refers : ∀ props : Option Operand,
    (∃ value, props = some value ∧ value.Refers h) ↔ Demanded h (visitsProps props)
  | none => by
      constructor
      · rintro ⟨value, ⟨⟩, -⟩
      · exact nofun
  | some value => by
      rw [visitsProps, ← operand_refers value]
      constructor
      · rintro ⟨value, ⟨⟩, refers⟩
        exact refers
      · intro refers
        exact ⟨value, rfl, refers⟩

theorem content_refers : ∀ content : Content, content.Refers h ↔ Demanded h content.visits
  | .absent => iff_of_false nofun nofun
  | .many children => by
      rw [Content.visits, ← children_refers children]
      constructor
      · rintro ⟨there, refers⟩
        exact ⟨_, there, refers⟩
      · rintro ⟨child, there, refers⟩
        exact .many there refers
  | .one child => by
      rw [Content.visits, ← template_refers child]
      constructor
      · rintro (_ | refers)
        exact refers
      · exact .one
  | .operand value => by
      rw [Content.visits, ← operand_refers value]
      constructor
      · rintro (_ | _ | refers)
        exact refers
      · exact .operand

theorem children_refers : ∀ children : List Template,
    (∃ child ∈ children, child.Refers h) ↔ Demanded h (visitsAll children)
  | [] => by simp [visitsAll]
  | child :: rest => by
      rw [visitsAll, demanded_append, ← template_refers child, ← children_refers rest]
      simp only [List.mem_cons, exists_eq_or_imp]

theorem operand_refers : ∀ value : Operand, value.Refers h ↔ Demanded h value.visits
  | .call c => by
      rw [Operand.visits, ← call_refers c]
      constructor
      · rintro ⟨refers⟩
        exact refers
      · exact .call
  | .object properties span => by
      rw [Operand.visits, demanded_site, ← properties_refers properties]
      constructor
      · rintro (_ | ⟨there, refers⟩)
        exact ⟨_, there, refers⟩
      · rintro ⟨property, there, refers⟩
        exact .property there refers
  | .array items span => by
      rw [Operand.visits, demanded_site, ← items_refers items]
      constructor
      · rintro (_ | _ | ⟨there, refers⟩)
        exact ⟨_, there, refers⟩
      · rintro ⟨item, there, refers⟩
        exact .item there refers
  -- An atom is pasted as it stands, so what it mentions is no reference.
  | .atom a => iff_of_false nofun nofun
  | .compound parts span => by
      rw [Operand.visits, demanded_compound]
      constructor
      · rintro (_ | _ | _ | ⟨there, refers⟩)
        exact ⟨_, there, refers⟩
      · rintro ⟨part, there, refers⟩
        exact .part there refers

theorem properties_refers : ∀ properties : List Property,
    (∃ property ∈ properties, property.Refers h) ↔ Demanded h (visitsProperties properties)
  | [] => by simp [visitsProperties]
  | property :: rest => by
      rw [visitsProperties, demanded_append, ← property_refers property, ← properties_refers rest]
      simp only [List.mem_cons, exists_eq_or_imp]

/-- A property refers to a helper by its key or by its value. -/
theorem property_refers : ∀ property : Property, property.Refers h ↔ Demanded h property.visits
  | .mk key value span => by
      rw [Property.visits, demanded_append, ← expr_keyVisits key, ← operand_refers value]
      constructor
      · rintro (refers | refers)
        · exact .inl refers
        · exact .inr refers
      · rintro (refers | refers)
        · exact .key refers
        · exact .value refers

theorem items_refers : ∀ items : List Item,
    (∃ item ∈ items, item.Refers h) ↔ Demanded h (visitsItems items)
  | [] => by simp [visitsItems]
  | item :: rest => by
      rw [visitsItems, demanded_append, ← item_refers item, ← items_refers rest]
      simp only [List.mem_cons, exists_eq_or_imp]

/-- A raw item is opaque: what it mentions is no reference. -/
theorem item_refers : ∀ item : Item, item.Refers h ↔ Demanded h item.visits
  | .raw code => iff_of_false nofun nofun
  | .operand value => by
      rw [Item.visits, ← operand_refers value]
      constructor
      · rintro ⟨refers⟩
        exact refers
      · exact .operand

end

/-! ## Uses in writing -/

variable {registry : Registry}

/-- Brackets use no helper. -/
theorem usesOf_enclosed {before : List Piece} {inner : Writer} {after : String} {ps : List Piece}
    (written : Writer.enclosed before inner after registry = .ok ps) (silent : usesOf before = []) :
    ∃ qs, inner registry = .ok qs ∧ usesOf ps = usesOf qs := by
  obtain ⟨qs, hq, rfl⟩ := Writer.enclosed_ok written
  refine ⟨qs, hq, ?_⟩
  rw [usesOf_append, usesOf_append, silent]
  exact List.append_nil _

/-- Nodes with parts mark their place before they open a bracket. -/
theorem usesOf_opened (text : String) (span : Span) (bracket : String) :
    usesOf (Piece.spanned text span ++ [.code bracket]) = [] := by
  rw [usesOf_append, usesOf_spanned]
  rfl

/-- Writing the name of a helper uses this helper and no other. -/
theorem mem_usesOf_symbol {helper : Helper} {ps : List Piece}
    (written : symbolPieces registry helper = .ok ps) : h ∈ usesOf ps ↔ helper = h := by
  rw [symbolPieces] at written
  cases hname : registry.resolve helper with
  | error f => rw [hname] at written; cases written
  | ok name =>
      rw [hname] at written
      rw [← Except.ok.inj written]
      show h ∈ [helper] ↔ helper = h
      rw [List.mem_singleton, eq_comm]

/-- **WRITING USES WHAT ITS VISITS DEMAND**, by induction on the layout. -/
theorem Layout.uses {vs : List Visit} {w : Writer} (layout : Layout vs w) :
    ∀ {ps : List Piece}, w registry = .ok ps → (h ∈ usesOf ps ↔ Demanded h vs) := by
  have silent : ∀ {ps : List Piece}, usesOf ps = [] → (h ∈ usesOf ps ↔ Demanded h []) := by
    intro ps none
    rw [none]
    exact iff_of_false List.not_mem_nil demanded_nil
  induction layout with
  | nothing =>
      intro ps hps
      rw [← Except.ok.inj hps]
      exact silent rfl
  | separator text _ =>
      intro ps hps
      rw [← Except.ok.inj hps]
      exact silent rfl
  | chain _ _ ihw ihx =>
      intro ps hps
      obtain ⟨qs, rs, hq, hr, rfl⟩ := Writer.chain_ok hps
      rw [usesOf_append, List.mem_append, demanded_append, ihw hq, ihx hr]
  | bracketed _ ih =>
      intro ps hps
      obtain ⟨qs, hq, same⟩ := usesOf_enclosed hps rfl
      rw [same, ih hq]
  | wrapper _ ih =>
      intro ps hps
      obtain ⟨qs, hq, same⟩ := usesOf_enclosed hps rfl
      rw [same, ih hq]
  | missing tag => intro ps hps; cases hps
  | element tag _ ih =>
      intro ps hps
      rw [demanded_element, ih hps]
  | text content span =>
      intro ps hps
      rw [← Except.ok.inj hps]
      exact silent (usesOf_spanned _ span)
  | atom a =>
      intro ps hps
      rw [← Except.ok.inj hps]
      exact silent (usesOf_spanned _ a.span)
  | key a =>
      -- A key is written as it is or in brackets, with no name in either case.
      intro ps hps
      have key : keyPieces registry (.atom a) = .ok ps := hps
      rw [keyPieces] at key
      split at key
      · rw [← Except.ok.inj key]
        exact silent (usesOf_spanned _ a.span)
      · rw [← Except.ok.inj key]
        refine silent ?_
        rw [usesOf_append, usesOf_spanned]
        rfl
  | tag t =>
      intro ps hps
      rw [demanded_tag, or_iff_left demanded_nil]
      cases t with
      | name tag =>
          rw [← Except.ok.inj hps]
          exact iff_of_false List.not_mem_nil Tag.noConfusion
      | dynamic code =>
          rw [← Except.ok.inj hps]
          exact iff_of_false List.not_mem_nil Tag.noConfusion
      | symbol helper => rw [mem_usesOf_symbol hps, Tag.symbol.injEq]
  | raw code =>
      intro ps hps
      rw [← Except.ok.inj hps]
      exact silent rfl
  | compound parts _ ih =>
      intro ps hps
      rw [ih hps, Demanded, demands_fragments, Demanded, List.flatMap_singleton]
      rfl
  | call c shape _ ih =>
      intro ps hps
      rw [shape] at hps
      obtain ⟨qs, hq, same⟩ := usesOf_enclosed hps (usesOf_opened _ _ _)
      rw [same, demanded_site, ih hq]
  | noProperties span =>
      intro ps hps
      rw [← Except.ok.inj hps]
      exact silent (usesOf_spanned _ span)
  | object properties span shape _ ih =>
      intro ps hps
      rw [shape] at hps
      obtain ⟨qs, hq, same⟩ := usesOf_enclosed hps (usesOf_spanned _ span)
      rw [same, demanded_site, ih hq]
  | array items span shape _ ih =>
      intro ps hps
      rw [shape] at hps
      obtain ⟨qs, hq, same⟩ := usesOf_enclosed hps (usesOf_opened _ _ _)
      rw [same, demanded_site, ih hq]

/-! ## Render functions -/

/-- Of helpers inserted one after another, none is lost and none is made up. -/
theorem mem_foldl_insert {helpers : List Helper} {known : Helper.Usage} :
    h ∈ (helpers.foldl Helper.Usage.insert known).toList ↔ h ∈ known.toList ∨ h ∈ helpers := by
  induction helpers generalizing known with
  | nil => simp
  | cons helper rest ih =>
      rw [List.foldl_cons, ih, Helper.Usage.mem_insert, List.mem_cons, or_comm (a := h = helper),
        or_assoc]

/-- What is bound is what the template lists, and the fragment of several roots. -/
theorem mem_boundHelpers {root : Root} :
    h ∈ boundHelpers root ↔ h ∈ root.helpers ∨ h = Helper.fragment ∧ 1 < root.children.length := by
  rw [boundHelpers, List.mem_append]
  split <;> simp [*]

/-- What is returned refers to the fragment, if there are several roots, and to what its roots
    refer to. -/
theorem demanded_returned (children : List Template) :
    Demanded h (visitsReturned children)
      ↔ (h = Helper.fragment ∧ 1 < children.length) ∨ ∃ child ∈ children, child.Refers h := by
  rw [children_refers]
  match children with
  | [] => simp [visitsReturned, visitsAll]
  | [child] => simp [visitsReturned, visitsAll]
  | first :: second :: rest =>
      -- Several roots are the children of a fragment, whose name comes first.
      show Demanded h (.tag (.symbol Helper.fragment) :: visitsAll (first :: second :: rest)) ↔ _
      rw [demanded_tag]
      simp [eq_comm]

/-- **EXACTLY THE REFERENCED HELPERS**: the helpers of a result ascend by number, without
    repetition, and are those that the template is known to need, the fragment if there are
    several roots, and those that a root refers to. -/
theorem generate_helpers {registry : Registry} {options : Options} {root : Root} {g : Generated}
    (written : generate registry options root = .ok g) :
    g.helpers.Pairwise (fun a b => a.id < b.id)
    ∧ ∀ h, h ∈ g.helpers ↔ h ∈ root.helpers
      ∨ (h = Helper.fragment ∧ 1 < root.children.length)
      ∨ ∃ child ∈ root.children, child.Refers h := by
  obtain ⟨found, body, -, hbody, rfl⟩ := generate_ok written
  rw [result_framed]
  refine ⟨Helper.Usage.ascending _, fun h => ?_⟩
  -- The fragment of several roots counts twice: it is bound, and the body starts with it.
  have body : h ∈ usesOf body ↔ _ := (layout_returned root.children).uses hbody
  rw [mem_foldl_insert, List.mem_append, mem_boundHelpers, body, demanded_returned]
  constructor
  · rintro (nowhere | (needed | several) | (several | refers))
    · exact nomatch nowhere
    · exact .inl needed
    · exact .inr (.inl several)
    · exact .inr (.inl several)
    · exact .inr (.inr refers)
  · rintro (needed | several | refers)
    · exact .inr (.inl (.inl needed))
    · exact .inr (.inl (.inr several))
    · exact .inr (.inr (.inr refers))

/-- Two roots with a reference in every place, and one in a parsed child. -/
def scattered : Root :=
  let inner : Call := .mk (.symbol ⟨8⟩) none .absent .stub
  let key : Expr := .compound [.raw "on", .symbol ⟨7⟩] .stub
  let props : Operand :=
    .object [.mk key (.array [.raw "a", .operand (.call inner)] .stub) .stub] .stub
  let nested : Part := .compound [.interpolation (.compound [.symbol ⟨6⟩] .stub) .stub] .stub
  let call : Call := .mk (.symbol ⟨1⟩) (some props)
    (.many [.interpolation (.compound [nested] .stub) .stub]) .stub
  { children := [.element "p" [.compound [.symbol ⟨5⟩] .stub] (.call call) .stub, .text "b" .stub]
    helpers := [⟨3⟩, ⟨3⟩], source := "", span := .stub }

/-- Helpers in every place where a reference can stand are reported, by ascending number; one that
    only parsed children mention is not. -/
theorem scattered_reported :
    ∃ g, generate .initial .standard scattered = .ok g
      ∧ g.helpers = [⟨0⟩, ⟨1⟩, ⟨3⟩, ⟨6⟩, ⟨7⟩, ⟨8⟩]
      ∧ g.helpers.Pairwise (fun a b => a.id < b.id)
      ∧ ∀ h, h ∈ g.helpers ↔ h ∈ scattered.helpers
        ∨ (h = Helper.fragment ∧ 1 < scattered.children.length)
        ∨ ∃ child ∈ scattered.children, child.Refers h := by
  obtain ⟨g, written, listed⟩ : ∃ g, generate .initial .standard scattered = .ok g
      ∧ g.helpers = [⟨0⟩, ⟨1⟩, ⟨3⟩, ⟨6⟩, ⟨7⟩, ⟨8⟩] := ⟨_, rfl, by decide⟩
  obtain ⟨ascending, exactly⟩ := generate_helpers written
  exact ⟨g, written, listed, ascending, exactly⟩

end Vdom.Emit
