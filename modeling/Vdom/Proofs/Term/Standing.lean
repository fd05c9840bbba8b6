import Mathlib.Data.List.Forall2
import Vdom.Proofs.Buffer
import Vdom.Proofs.Layout
import Vdom.Proofs.Term.Reader
/-!
# What templates stand for — generated expressions are uniquely readable

Every node of a template stands for a term, unless something is pasted into it that no term
accounts for: a compound or a raw item. The code of a node is the printed term and nothing else,
so a reader of terms gets the term back from the code.

* **`Tree.term?`** — the term that a tree stands for.
* **`Visit.Spelled`** — what has to hold of every visit of a tree: it is part of a term, and the
  words in it are words.
* **`Stands`** — a writer writes the term that is meant, and that term is spelled.
* **`Tree.uniquely_readable`** — the main theorem.
-/

namespace Vdom

open Emit (Leaf Term Entry)

/-! ## Terms of trees -/

/-- The leaf that an atom stands for. -/
def Atom.leaf (a : Atom) : Leaf :=
  if a.isStatic then .literal a.content else .word a.content

/-- The leaf that an expression stands for, if it is in one piece. -/
def Expr.leaf? : Expr → Option Leaf
  | .atom a => some a.leaf
  | .compound _ _ => none

/-- The leaf that a tag stands for: its name or its code, or the name of its helper. -/
def Tag.leaf? (registry : Registry) : Tag → Option Leaf
  | .name tag => some (.literal tag)
  | .dynamic code => some (.word code)
  | .symbol helper => (registry.name? helper).map .word

mutual

/-- The term that a node stands for. What was parsed inside an element plays no part. -/
def Template.term? (registry : Registry) : Template → Option Term
  | .element _ _ plan _ => plan.term? registry
  | .text content _ => some (.leaf (.literal content))
  | .interpolation content _ => content.leaf?.map .leaf
  | .compound _ _ => none

/-- The term that the plan of an element stands for. -/
def Plan.term? (registry : Registry) : Plan → Option Term
  | .missing => none
  | .call c => c.term? registry
  | .atom a => some (.leaf a.leaf)

/-- The term that a call stands for. -/
def Call.term? (registry : Registry) : Call → Option Term
  | .mk tag props content _ => do
    let tag ← tag.leaf? registry
    let props ← propsTerm? registry props
    let content ← content.term? registry
    some (.call tag props content)

/-- The term that props stand for, if there are any. -/
def propsTerm? (registry : Registry) : Option Operand → Option (Option Term)
  | none => some none
  | some value => (value.term? registry).map some

/-- The term that the children of a call stand for, if there are any. -/
def Content.term? (registry : Registry) : Content → Option (Option Term)
  | .absent => some none
  | .many children => (childrenTerms? registry children).map fun items => some (.array items)
  | .one child => (child.term? registry).map some
  | .operand value => (value.term? registry).map some

/-- The terms that nodes stand for. -/
def childrenTerms? (registry : Registry) : List Template → Option (List Term)
  | [] => some []
  | child :: rest => do
    let first ← child.term? registry
    let others ← childrenTerms? registry rest
    some (first :: others)

/-- The term that a value stands for. -/
def Operand.term? (registry : Registry) : Operand → Option Term
  | .call c => c.term? registry
  | .object properties _ => (entries? registry properties).map .object
  | .array items _ => (itemsTerms? registry items).map .array
  | .atom a => some (.leaf a.leaf)
  | .compound _ _ => none

/-- The entries that properties stand for. -/
def entries? (registry : Registry) : List Property → Option (List Entry)
  | [] => some []
  | property :: rest => do
    let first ← property.entry? registry
    let others ← entries? registry rest
    some (first :: others)

/-- The entry that a property stands for. -/
def Property.entry? (registry : Registry) : Property → Option Entry
  | .mk key value _ => do
    let key ← key.leaf?
    let value ← value.term? registry
    some (.mk key value)

/-- The terms that the items of an array stand for. -/
def itemsTerms? (registry : Registry) : List Item → Option (List Term)
  | [] => some []
  | item :: rest => do
    let first ← item.term? registry
    let others ← itemsTerms? registry rest
    some (first :: others)

/-- The term that an item stands for. -/
def Item.term? (registry : Registry) : Item → Option Term
  | .raw _ => none
  | .operand value => value.term? registry

end

end Vdom

namespace Vdom.Emit

open Writer (plain chain enclosed)

/-- A tree that an expression is written for: a node of a template or a value. -/
inductive Tree where
  | template (t : Template)
  | operand (value : Operand)

namespace Tree

/-- The visits of a tree. -/
def visits : Tree → List Visit
  | .template t => t.visits
  | .operand value => value.visits

/-- What writes a tree. -/
def writer : Tree → Writer
  | .template t => fun registry => templatePieces registry t
  | .operand value => fun registry => operandPieces registry value

/-- The term that a tree stands for. -/
def term? (registry : Registry) : Tree → Option Term
  | .template t => t.term? registry
  | .operand value => value.term? registry

end Tree

/-- Whether a visit is part of a term and its words are words: elements have plans, dynamic atoms
    and tags and the names of helpers are spelled, and neither raw items nor compounds occur. -/
def Visit.Spelled (A : Alphabet) (registry : Registry) : Visit → Prop
  | .element _ planned => planned = true
  | .site (.atom a) => a.leaf.Spelled A
  | .site (.key a) => a.leaf.Spelled A
  | .site _ => True
  | .tag t => ∃ l, t.leaf? registry = some l ∧ l.Spelled A
  | .raw _ => False
  | .compound _ => False

instance (A : Alphabet) (registry : Registry) : (v : Visit) → Decidable (v.Spelled A registry)
  | .element _ planned => inferInstanceAs (Decidable (planned = true))
  | .site (.atom a) => inferInstanceAs (Decidable (a.leaf.Spelled A))
  | .site (.key a) => inferInstanceAs (Decidable (a.leaf.Spelled A))
  | .site (.text _ _) | .site (.call _) | .site (.object _ _) | .site (.array _ _) =>
    .isTrue trivial
  | .tag t => inferInstanceAs (Decidable (∃ l ∈ t.leaf? registry, l.Spelled A))
  | .raw _ => .isFalse id
  | .compound _ => .isFalse id

/-! ## What is printed -/

/-- Whether exactly a text is written. -/
def Prints (written : Written) (text : List Char) : Prop :=
  ∃ ps, written = .ok ps ∧ (codeOf ps).toList = text

variable {A : Alphabet} {registry : Registry}

theorem prints_ok (ps : List Piece) : Prints (.ok ps) (codeOf ps).toList := ⟨ps, rfl, rfl⟩

/-- What prints two texts one after the other prints their chain. -/
theorem Prints.chain {w x : Writer} {text more : List Char} (first : Prints (w registry) text)
    (second : Prints (x registry) more) : Prints (chain w x registry) (text ++ more) := by
  obtain ⟨ps, hps, rfl⟩ := first
  obtain ⟨qs, hqs, rfl⟩ := second
  refine ⟨ps ++ qs, ?_, ?_⟩
  · rw [Writer.chain, hps, hqs]
    rfl
  · rw [codeOf_append, String.toList_append]

/-- What stands between brackets is printed between them. -/
theorem Prints.enclosed {before : List Piece} {w : Writer} {after : String} {text : List Char}
    (inner : Prints (w registry) text) :
    Prints (enclosed before w after registry)
      ((codeOf before).toList ++ (text ++ after.toList)) := by
  obtain ⟨ps, hps, rfl⟩ := inner
  refine ⟨before ++ (ps ++ [.code after]), ?_, ?_⟩
  · rw [Writer.enclosed, hps]
    rfl
  · rw [codeOf_append, codeOf_append, codeOf_code, codeOf_nil, String.append_empty,
      String.toList_append, String.toList_append]

/-- Lists with commas are printed entry by entry. -/
theorem prints_commas {α β : Type} {write : α → Writer} {print : β → List Char}
    {more : List β → List Char} (none : more [] = [])
    (some : ∀ y ys, more (y :: ys) = ',' :: ' ' :: (print y ++ more ys)) {xs : List α}
    {ys : List β} (each : List.Forall₂ (fun x y => Prints (write x registry) (print y)) xs ys) :
    ∀ {x : α} {y : β}, Prints (write x registry) (print y) →
      Prints (commas write (x :: xs) registry) (print y ++ more ys) := by
  induction each with
  | nil =>
      intro x y first
      rw [commas_single, none, List.append_nil]
      exact first
  | cons next _ ih =>
      intro x y first
      rw [commas_cons, some]
      have comma : Prints (plain [.code ", "] registry) [',', ' '] := prints_ok _
      exact first.chain (comma.chain (ih next))

/-- An atom is printed as its leaf, whatever mark it has. -/
theorem prints_atom (a : Atom) : Prints (.ok (atomPieces a)) a.leaf.print := by
  refine ⟨atomPieces a, rfl, ?_⟩
  rw [atomPieces, codeOf_spanned, atomText, Atom.leaf]
  split
  · rw [quote, String.toList_ofList, Leaf.print]
  · rw [Leaf.print]

/-- Text is printed as a literal, marked or not. -/
theorem prints_text (content : String) (span : Span) :
    Prints (.ok (Piece.spanned (quote content) span)) (Leaf.literal content).print := by
  refine ⟨_, rfl, ?_⟩
  rw [codeOf_spanned, quote, String.toList_ofList, Leaf.print]

/-- A tag that stands for a leaf is printed as this leaf. -/
theorem prints_tag {t : Tag} {l : Leaf} (h : t.leaf? registry = some l) :
    Prints (tagPieces registry t) l.print := by
  cases t with
  | name tag =>
      rw [← Option.some.inj h]
      refine ⟨_, rfl, ?_⟩
      rw [codeOf_code, codeOf_nil, String.append_empty, quote, String.toList_ofList, Leaf.print]
  | dynamic code =>
      rw [← Option.some.inj h]
      refine ⟨_, rfl, ?_⟩
      rw [codeOf_code, codeOf_nil, String.append_empty, Leaf.print]
  | symbol helper =>
      obtain ⟨name, hname, rfl⟩ := Option.map_eq_some_iff.mp h
      refine ⟨[.use helper, .code name], ?_, ?_⟩
      · rw [tagPieces, symbolPieces, Registry.resolve, hname]
        rfl
      · rw [codeOf_use, codeOf_code, codeOf_nil, String.append_empty, Leaf.print]

/-- A static key is quoted and a dynamic one computed. -/
theorem prints_key (a : Atom) : Prints (keyPieces registry (.atom a)) a.leaf.printKey := by
  rw [keyPieces]
  by_cases static : a.isStatic = true
  · have printed := prints_atom a
    rw [Atom.leaf, if_pos static] at printed ⊢
    rw [if_pos static]
    exact printed
  · rw [if_neg static, Atom.leaf, if_neg static, Leaf.printKey]
    refine ⟨_, rfl, ?_⟩
    rw [codeOf_append, codeOf_spanned, codeOf_code, codeOf_code, codeOf_nil, String.append_empty,
      String.toList_append, String.toList_append]
    rfl

/-! ## What is meant -/

/-- Whether there is a term that is meant, its words are words, and it is what is written. -/
def Stands (A : Alphabet) (meant : Option Term) (written : Written) : Prop :=
  ∃ t, meant = some t ∧ t.Spelled A ∧ Prints written t.print

/-- The code of an argument, if there is one. -/
def codeOf? (ps : Option (List Piece)) : Option (List Char) := ps.map fun ps => (codeOf ps).toList

/-- Whether the argument that is meant is written, or is left out as meant. -/
def StandsSlot (A : Alphabet) (meant : Option (Option Term))
    (written : Except Fault (Option (List Piece))) : Prop :=
  ∃ t ps, meant = some t ∧ SpelledSlot A t ∧ written = .ok ps ∧ codeOf? ps = t.map Term.print

/-- An operand in the place of an argument stands for this argument. -/
theorem Stands.slot {meant : Option Term} {written : Written} (h : Stands A meant written) :
    StandsSlot A (meant.map some) (written.map some) := by
  obtain ⟨t, rfl, spelled, ps, rfl, printed⟩ := h
  exact ⟨some t, some ps, rfl, spelled, rfl, congrArg some printed⟩

/-- An atom stands for its leaf, if that is spelled. -/
theorem stands_atom {a : Atom} (spelled : a.leaf.Spelled A) :
    Stands A (some (.leaf a.leaf)) (.ok (atomPieces a)) :=
  ⟨.leaf a.leaf, rfl, spelled, prints_atom a⟩

/-- A string literal is spelled whatever it holds: its quotes keep it apart. -/
theorem spelled_literal (text : String) : (Leaf.literal text).Spelled A :=
  ⟨trivial, fun same => nomatch same⟩

/-- The code of a call is a printed call, whichever of its arguments are left out. -/
theorem code_call {first : List Piece} {second third : Option (List Piece)} {l : Leaf}
    {props content : Option Term} (tag : (codeOf first).toList = l.print)
    (hprops : codeOf? second = props.map Term.print)
    (hcontent : codeOf? third = content.map Term.print) (span : Span) :
    (codeOf (Piece.spanned nodeFunction span ++ .code "("
        :: (commaSeparated (fillGaps [.code "null"] [some first, second, third])
          ++ [.code ")"]))).toList
      = (Term.call l props content).print := by
  rw [codeOf_append, codeOf_spanned]
  -- An argument is written exactly if it is meant, so only the diagonal is left.
  rcases second with _ | qs <;> rcases props with _ | t
  · rcases third with _ | rs <;> rcases content with _ | u
    · simp [fillGaps, commaSeparated, nodeFunction, Term.print, tag]
    · cases hcontent
    · cases hcontent
    · have printed : (codeOf rs).toList = u.print := Option.some.inj hcontent
      simp [fillGaps, commaSeparated, nodeFunction, Term.print, Leaf.gap, Leaf.print, tag, printed]
  · cases hprops
  · cases hprops
  · have printedProps : (codeOf qs).toList = t.print := Option.some.inj hprops
    rcases third with _ | rs <;> rcases content with _ | u
    · simp [fillGaps, commaSeparated, nodeFunction, Term.print, tag, printedProps]
    · cases hcontent
    · cases hcontent
    · have printed : (codeOf rs).toList = u.print := Option.some.inj hcontent
      simp [fillGaps, commaSeparated, nodeFunction, Term.print, tag, printedProps, printed]

/-- A call stands for a call if its tag and arguments stand for what is meant. -/
theorem stands_call {tag : Tag} {props : Option Operand} {content : Content} {span : Span}
    (first : ∃ l, tag.leaf? registry = some l ∧ l.Spelled A)
    (second : StandsSlot A (propsTerm? registry props) (propsPieces registry props))
    (third : StandsSlot A (content.term? registry) (contentPieces registry content)) :
    Stands A ((Call.mk tag props content span).term? registry)
      (callPieces registry (.mk tag props content span)) := by
  obtain ⟨l, hl, spelled⟩ := first
  obtain ⟨ps, named, printed⟩ := prints_tag hl
  obtain ⟨t, qs, ht, spelledProps, hqs, printedProps⟩ := second
  obtain ⟨u, rs, hu, spelledContent, hrs, printedContent⟩ := third
  refine ⟨.call l t u, ?_, ⟨spelled, spelledProps, spelledContent⟩, _, ?_,
    code_call printed printedProps printedContent span⟩
  · rw [Call.term?, hl, ht, hu]
    rfl
  · rw [callPieces, named, hqs, hrs]
    rfl

/-- Brackets around nodes or items stand for an array. -/
theorem stands_array {α : Type} {write : α → Writer} {before : List Piece}
    (code : codeOf before = "[") {xs : List α} {items : List Term}
    (spelled : SpelledAll A items)
    (each : List.Forall₂ (fun x item => Prints (write x registry) item.print) xs items) :
    Stands A (some (.array items)) (enclosed before (commas write xs) "]" registry) := by
  refine ⟨.array items, rfl, spelled, ?_⟩
  cases each with
  | nil =>
      have inner : Prints (commas write [] registry) [] := prints_ok []
      have whole : Prints (enclosed before (commas write []) "]" registry) _ := inner.enclosed
      rw [code] at whole
      exact whole
  | @cons x item xs items first others =>
      have inner : Prints (commas write (x :: xs) registry) (item.print ++ printMore items) :=
        prints_commas rfl (fun _ _ => rfl) others first
      have whole : Prints (enclosed before (commas write (x :: xs)) "]" registry) _ :=
        inner.enclosed
      rw [code, List.append_assoc] at whole
      exact whole

/-- Braces around properties stand for an object; without properties no blank is written. -/
theorem stands_object {properties : List Property} {entries : List Entry} {span : Span}
    (spelled : SpelledEntries A entries)
    (each : List.Forall₂ (fun property entry => Prints (propertyPieces registry property)
      (Entry.print entry)) properties entries) :
    Stands A (some (.object entries))
      (operandPieces registry (.object properties span)) := by
  refine ⟨.object entries, rfl, spelled, ?_⟩
  -- Without entries the braces are one piece; otherwise the first entry has no comma before it.
  cases each with
  | nil =>
      have written : operandPieces registry (.object [] span)
          = .ok (Piece.spanned "\x7b\x7d" span) := by
        simp only [operandPieces, propertiesPieces]
        rfl
      rw [written]
      refine ⟨_, rfl, ?_⟩
      rw [codeOf_spanned]
      rfl
  | @cons property entry properties entries first others =>
      have inner : Prints
          (commas (fun property registry => propertyPieces registry property)
            (property :: properties) registry)
          (entry.print ++ printMoreEntries entries) :=
        prints_commas rfl (fun _ _ => rfl) others first
      have whole : Prints (enclosed (Piece.spanned "\x7b " span) _ " \x7d" registry) _ :=
        inner.enclosed
      rw [← object_writer, codeOf_spanned, List.append_assoc] at whole
      exact whole

mutual

/-- **EVERY SPELLED TREE STANDS FOR ITS TERM**: if every visit is spelled, there is a term that is
    meant, and it is what is written. -/
theorem stands_template : ∀ t : Template, (∀ v ∈ t.visits, v.Spelled A registry) →
    Stands A (t.term? registry) (templatePieces registry t)
  | .element tag parsed plan span, h => by
      rw [Template.term?, templatePieces]
      exact stands_plan tag plan h
  | .text content span, _ => by
      rw [Template.term?, templatePieces]
      exact ⟨_, rfl, spelled_literal content, prints_text content span⟩
  | .interpolation (.atom a) span, h => by
      rw [Template.term?, templatePieces, exprPieces]
      exact stands_atom (h _ List.mem_cons_self)
  | .interpolation (.compound parts inner) span, h => absurd (h _ List.mem_cons_self) id
  | .compound parts span, h => absurd (h _ List.mem_cons_self) id

/-- A missing plan has a visit that is not spelled; every other plan stands for a term. -/
theorem stands_plan (tag : String) : ∀ plan : Plan,
    (∀ v ∈ plan.visits tag, v.Spelled A registry) →
    Stands A (plan.term? registry) (planPieces registry tag plan)
  | .missing, h => nomatch h _ List.mem_cons_self
  | .call c, h => by
      rw [Plan.term?, planPieces]
      exact stands_node c fun v hv => h v (List.mem_cons_of_mem _ hv)
  | .atom a, h => by
      rw [Plan.term?, planPieces]
      exact stands_atom (h _ (List.mem_cons_of_mem _ List.mem_cons_self))

/-- A call stands for a call, and absent arguments for absent ones. -/
theorem stands_node : ∀ c : Call, (∀ v ∈ c.visits, v.Spelled A registry) →
    Stands A (c.term? registry) (callPieces registry c)
  | .mk tag props content span, h => by
      have rest : ∀ v ∈ visitsProps props ++ content.visits, v.Spelled A registry :=
        fun v hv => h v (List.mem_cons_of_mem _ (List.mem_cons_of_mem _ hv))
      exact stands_call (h _ (List.mem_cons_of_mem _ List.mem_cons_self))
        (stands_props props fun v hv => rest v (List.mem_append_left _ hv))
        (stands_content content fun v hv => rest v (List.mem_append_right _ hv))

/-- Props stand for an argument, or for none if they are absent; children likewise. -/
theorem stands_props : ∀ props : Option Operand,
    (∀ v ∈ visitsProps props, v.Spelled A registry) →
    StandsSlot A (propsTerm? registry props) (propsPieces registry props)
  | none, _ => ⟨none, none, rfl, trivial, by rw [propsPieces], rfl⟩
  | some value, h => by
      rw [propsTerm?, propsPieces]
      exact (stands_operand value h).slot

theorem stands_content : ∀ content : Content, (∀ v ∈ content.visits, v.Spelled A registry) →
    StandsSlot A (content.term? registry) (contentPieces registry content)
  | .absent, _ => ⟨none, none, by rw [Content.term?], trivial, by rw [contentPieces], rfl⟩
  | .many children, h => by
      obtain ⟨items, meant, spelled, each⟩ := stands_children children h
      -- A list of nodes is an array that no value of the template stands for.
      have whole : Stands A (some (.array items))
          ((childrenPieces registry children).map bracketed) := by
        rw [childrenPieces_bracketed]
        exact stands_array rfl spelled each
      have slot := whole.slot
      rw [Content.term?, contentPieces, meant]
      cases hruns : childrenPieces registry children with
      | error f => rw [hruns] at slot; exact slot
      | ok runs => rw [hruns] at slot; exact slot
  | .one child, h => by
      rw [Content.term?, contentPieces]
      exact (stands_template child h).slot
  | .operand value, h => by
      rw [Content.term?, contentPieces]
      exact (stands_operand value h).slot

/-- Each of several children is printed as the term that it stands for. -/
theorem stands_children : ∀ children : List Template,
    (∀ v ∈ visitsAll children, v.Spelled A registry) →
    ∃ items, childrenTerms? registry children = some items ∧ SpelledAll A items
      ∧ List.Forall₂ (fun child item => Prints (templatePieces registry child) (Term.print item))
        children items
  | [], _ => ⟨[], rfl, trivial, .nil⟩
  | child :: rest, h => by
      obtain ⟨t, meant, spelled, printed⟩ :=
        stands_template child fun v hv => h v (List.mem_append_left _ hv)
      obtain ⟨items, others, spelledOthers, each⟩ :=
        stands_children rest fun v hv => h v (List.mem_append_right _ hv)
      refine ⟨t :: items, ?_, ⟨spelled, spelledOthers⟩, .cons printed each⟩
      rw [childrenTerms?, meant, others]
      rfl

/-- A value stands for a term; a compound has a visit that is not spelled. -/
theorem stands_operand : ∀ value : Operand, (∀ v ∈ value.visits, v.Spelled A registry) →
    Stands A (value.term? registry) (operandPieces registry value)
  | .call c, h => by
      rw [Operand.term?, operandPieces]
      exact stands_node c h
  | .object properties span, h => by
      obtain ⟨entries, meant, spelled, each⟩ :=
        stands_properties properties fun v hv => h v (List.mem_cons_of_mem _ hv)
      rw [Operand.term?, meant]
      exact stands_object spelled each
  | .array items span, h => by
      obtain ⟨terms, meant, spelled, each⟩ :=
        stands_items items fun v hv => h v (List.mem_cons_of_mem _ hv)
      have whole : operandPieces registry (.array items span) = _ :=
        congrFun (array_writer items span) registry
      rw [Operand.term?, meant, whole]
      refine stands_array ?_ spelled each
      rw [codeOf_append, codeOf_spanned]
      rfl
  | .atom a, h => by
      rw [Operand.term?, operandPieces]
      exact stands_atom (h _ List.mem_cons_self)
  | .compound parts span, h => absurd (h _ List.mem_cons_self) id

/-- Each property of an object is printed as the entry that it stands for. -/
theorem stands_properties : ∀ properties : List Property,
    (∀ v ∈ visitsProperties properties, v.Spelled A registry) →
    ∃ entries, entries? registry properties = some entries ∧ SpelledEntries A entries
      ∧ List.Forall₂ (fun property entry => Prints (propertyPieces registry property)
        (Entry.print entry)) properties entries
  | [], _ => ⟨[], rfl, trivial, .nil⟩
  | property :: rest, h => by
      obtain ⟨e, meant, spelled, printed⟩ :=
        stands_property property fun v hv => h v (List.mem_append_left _ hv)
      obtain ⟨entries, others, spelledOthers, each⟩ :=
        stands_properties rest fun v hv => h v (List.mem_append_right _ hv)
      refine ⟨e :: entries, ?_, ⟨spelled, spelledOthers⟩, .cons printed each⟩
      rw [entries?, meant, others]
      rfl

/-- A static key stands for a literal one, and any other atom for a computed one. -/
theorem stands_property : ∀ property : Property,
    (∀ v ∈ property.visits, v.Spelled A registry) →
    ∃ e, property.entry? registry = some e ∧ e.Spelled A
      ∧ Prints (propertyPieces registry property) e.print
  | .mk (.atom a) value span, h => by
      obtain ⟨t, meant, spelled, printed⟩ :=
        stands_operand value fun v hv => h v (List.mem_cons_of_mem _ hv)
      refine ⟨.mk a.leaf t, ?_, ⟨h _ List.mem_cons_self, spelled⟩, ?_⟩
      · rw [Property.entry?, Expr.leaf?, meant]
        rfl
      · have colon : Prints (plain [.code ": "] registry) [':', ' '] := prints_ok _
        have whole : propertyPieces registry (.mk (.atom a) value span) = _ :=
          congrFun (property_writer (.atom a) value span) registry
        rw [whole]
        exact (prints_key a).chain (colon.chain printed)
  | .mk (.compound parts inner) value span, h => absurd (h _ List.mem_cons_self) id

theorem stands_items : ∀ items : List Item,
    (∀ v ∈ visitsItems items, v.Spelled A registry) →
    ∃ terms, itemsTerms? registry items = some terms ∧ SpelledAll A terms
      ∧ List.Forall₂ (fun item t => Prints (itemPieces registry item) (Term.print t)) items terms
  | [], _ => ⟨[], rfl, trivial, .nil⟩
  | item :: rest, h => by
      obtain ⟨t, meant, spelled, printed⟩ :=
        stands_item item fun v hv => h v (List.mem_append_left _ hv)
      obtain ⟨terms, others, spelledOthers, each⟩ :=
        stands_items rest fun v hv => h v (List.mem_append_right _ hv)
      refine ⟨t :: terms, ?_, ⟨spelled, spelledOthers⟩, .cons printed each⟩
      rw [itemsTerms?, meant, others]
      rfl

/-- A raw item has a visit that is not spelled; any other stands for its value. -/
theorem stands_item : ∀ item : Item, (∀ v ∈ item.visits, v.Spelled A registry) →
    Stands A (item.term? registry) (itemPieces registry item)
  | .raw code, h => absurd (h _ List.mem_cons_self) id
  | .operand value, h => by
      rw [Item.term?, itemPieces]
      exact stands_operand value h

end

namespace Tree

/-- The term that a spelled tree stands for is what is written for it. -/
theorem stands (tree : Tree) (h : ∀ v ∈ tree.visits, v.Spelled A registry) :
    Stands A (tree.term? registry) (tree.writer registry) := by
  cases tree with
  | template t => exact stands_template t h
  | operand value => exact stands_operand value h

/-- **GENERATED EXPRESSIONS ARE UNIQUELY READABLE**: the code of a spelled tree is read back as
    the term that the tree stands for, and whatever follows is left, unless it goes on with the
    last word or makes a call of it. -/
theorem uniquely_readable (A : Alphabet) (registry : Registry) (tree : Tree)
    (spelled : ∀ v ∈ tree.visits, v.Spelled A registry) :
    ∃ t ps, tree.term? registry = some t ∧ tree.writer registry = .ok ps
      ∧ ∀ rest : String, A.Stops rest.toList →
          Term.read A (codeOf ps ++ rest) = some (t, rest) := by
  obtain ⟨t, meant, legible, ps, written, printed⟩ := tree.stands spelled
  refine ⟨t, ps, meant, written, ?_⟩
  intro rest stops
  exact Term.read_print legible printed stops

/-- A tree of every kind of node, with quotes, brackets and line breaks in its static content. -/
def sample : Tree :=
  let props : Operand := .object
    [.mk (.atom ⟨"a\"]: ", true, .stub⟩) (.array [.operand (.atom ⟨"_ctx.b", false, .stub⟩)] .stub)
      .stub, .mk (.atom ⟨"c", false, .stub⟩) (.object [] .stub) .stub] .stub
  let inner : Template := .element "p" [] (.call (.mk (.symbol .fragment) none
    (.one (.text "\n)\\" .stub)) .stub)) .stub
  .template (.element "div" [] (.call (.mk (.name "d\"iv") (some props)
    (.many [inner, .interpolation (.atom ⟨"d", false, .stub⟩) .stub]) .stub)) .stub)

/-- The sample is read back in front of any text that stops it. -/
theorem sample_readable :
    ∃ t ps, sample.term? .initial = some t ∧ sample.writer .initial = .ok ps
      ∧ ∀ rest : String, Alphabet.ascii.Stops rest.toList →
          Term.read .ascii (codeOf ps ++ rest) = some (t, rest) :=
  uniquely_readable .ascii .initial sample (by decide)

end Tree

end Vdom.Emit
