import Vdom.Proofs.Visits
/-!
# Layouts — how visits are written

`Layout visits writer` relates the visits of a part of the emitted tree to what writes them. Its
rules are the ways in which code is put together: sites and pasted code on their own, one writer
after another, and writers between brackets. Whatever holds of visits and writer along these rules
holds of every template (`layout_template`), so a statement about all templates is one induction
on a layout.
-/

namespace Vdom.Emit

open Writer (plain fault chain enclosed sequence chain_plain)

/-- The texts that stand between visits: commas, colons, and `null` for what is absent. -/
def separators : List String := [", ", ": ", "null", ", null, "]

/-- How a list of visits is written. -/
inductive Layout : List Visit → Writer → Prop where
  | nothing : Layout [] (plain [])
  | separator (text : String) : text ∈ separators → Layout [] (plain [.code text])
  | chain {vs us : List Visit} {w x : Writer} :
      Layout vs w → Layout us x → Layout (vs ++ us) (chain w x)
  | bracketed {vs : List Visit} {w : Writer} :
      Layout vs w → Layout vs (enclosed [.code "["] w "]")
  | missing (tag : String) : Layout [.element tag false] (fault (.unplanned tag))
  | element (tag : String) {vs : List Visit} {w : Writer} :
      Layout vs w → Layout (.element tag true :: vs) w
  | text (content : String) (span : Span) :
      Layout [.site (.text content span)] (Site.text content span).writer
  | atom (a : Atom) : Layout [.site (.atom a)] (Site.atom a).writer
  | key (a : Atom) : Layout [.site (.key a)] (Site.key a).writer
  | tag (t : Tag) : Layout [.tag t] fun registry => tagPieces registry t
  | raw (code : String) : Layout [.raw code] (plain [.code code])
  /-- A compound is written as its fragments would be outside of it. -/
  | compound (parts : List Part) :
      Layout ((fragmentsOf parts).map Fragment.visit) (fun registry => partsPieces registry parts) →
      Layout [.compound parts] fun registry => partsPieces registry parts
  -- The rules for nodes with parts give the shape of the writer, so that no induction opens it.
  | call (c : Call) {vs : List Visit} {w : Writer} :
      (Site.call c).writer = enclosed (Piece.spanned nodeFunction c.span ++ [.code "("]) w ")" →
      Layout vs w → Layout (.site (.call c) :: vs) (Site.call c).writer
  | noProperties (span : Span) :
      Layout [.site (.object [] span)] (Site.object [] span).writer
  | object (properties : List Property) (span : Span) {vs : List Visit} {w : Writer} :
      (Site.object properties span).writer = enclosed (Piece.spanned "\x7b " span) w " \x7d" →
      Layout vs w → Layout (.site (.object properties span) :: vs)
        (Site.object properties span).writer
  | array (items : List Item) (span : Span) {vs : List Visit} {w : Writer} :
      (Site.array items span).writer = enclosed (Piece.spanned "" span ++ [.code "["]) w "]" →
      Layout vs w → Layout (.site (.array items span) :: vs) (Site.array items span).writer
  /-- A call that stands for no node of the template. -/
  | wrapper {vs : List Visit} {w : Writer} :
      Layout vs w → Layout vs (enclosed [.code nodeFunction, .code "("] w ")")

/-- What visits nothing may stand before anything. -/
theorem Layout.after {vs : List Visit} {w x : Writer} (silent : Layout [] w) (h : Layout vs x) :
    Layout vs (Writer.chain w x) :=
  Layout.chain silent h

theorem layout_comma : Layout [] (plain [.code ", "]) := .separator _ (by decide)

theorem layout_colon : Layout [] (plain [.code ": "]) := .separator _ (by decide)

theorem layout_null : Layout [] (plain [.code "null"]) := .separator _ (by decide)

theorem layout_noProps : Layout [] (plain [.code ", null, "]) := .separator _ (by decide)

/-! ## Lists with commas -/

/-- Writers in order with commas between neighbours. -/
def commas {α : Type} (write : α → Writer) (xs : List α) : Writer := fun registry =>
  (xs.mapM fun x => write x registry).map commaSeparated

/-- What the elements of a list are does not count, only what each of them writes. -/
theorem commas_map {α : Type} (write : α → Writer) (xs : List α) :
    commas write xs = commas id (xs.map write) := by
  funext registry
  rw [commas, commas, List.mapM_map]
  rfl

/-- A single element is written without a comma. -/
theorem commas_single {α : Type} (write : α → Writer) (x : α) :
    commas write [x] = write x := by
  funext registry
  rw [commas, List.mapM_cons, List.mapM_nil]
  cases write x registry with
  | error f => rfl
  | ok ps => rfl

/-- Between two elements stand a comma and a blank. -/
theorem commas_cons {α : Type} (write : α → Writer) (x y : α) (rest : List α) :
    commas write (x :: y :: rest)
      = chain (write x) (chain (plain [.code ", "]) (commas write (y :: rest))) := by
  funext registry
  simp only [commas, chain, plain, List.mapM_cons]
  cases write x registry with
  | error f => rfl
  | ok ps =>
      cases write y registry with
      | error f => rfl
      | ok qs =>
          cases rest.mapM fun x => write x registry with
          | error f => rfl
          | ok runs => rfl

/-- A list with commas is laid out if its entries are. -/
theorem layout_commas {α : Type} (visits : α → List Visit) (write : α → Writer) :
    ∀ xs : List α, (∀ x ∈ xs, Layout (visits x) (write x)) →
      Layout (xs.flatMap visits) (commas write xs) := by
  intro xs
  induction xs with
  | nil => intro _; exact .nothing
  | cons x xs ih =>
      intro each
      have first : Layout (visits x) (write x) := each x List.mem_cons_self
      have others := ih fun y hy => each y (List.mem_cons_of_mem x hy)
      rw [List.flatMap_cons]
      -- The comma behind an element depends on whether another one follows.
      cases xs with
      | nil =>
          rw [commas_single, List.flatMap_nil, List.append_nil]
          exact first
      | cons y rest =>
          rw [commas_cons]
          exact .chain first (.after layout_comma others)

/-! ## Arguments of a call -/

/-- What writes an argument, if there is one. -/
abbrev Slot := Registry → Except Fault (Option (List Piece))

/-- An argument that is absent, or laid out. -/
def Filled (vs : List Visit) (slot : Slot) : Prop :=
  (vs = [] ∧ slot = fun _ => .ok none)
    ∨ ∃ w : Writer, Layout vs w ∧ slot = fun registry => (w registry).map some

/-- The arguments of a call: a tag, props and children, without absent ones at the end. -/
def arguments (first : Writer) (second third : Slot) : Writer := fun registry => do
  let tag ← first registry
  let props ← second registry
  let content ← third registry
  .ok (commaSeparated (fillGaps [.code "null"] [some tag, props, content]))

/-- The argument that a writer fills, or none. -/
def slotOf : Option Writer → Slot
  | none => fun _ => .ok none
  | some w => fun registry => (w registry).map some

/-- **ARGUMENTS ARE A LIST WITH COMMAS**: gaps can be filled before anything is written. -/
theorem arguments_eq (first : Writer) (props content : Option Writer) :
    arguments first (slotOf props) (slotOf content)
      = commas id (fillGaps (plain [.code "null"]) [some first, props, content]) := by
  funext registry
  rw [arguments]
  -- Which arguments are absent decides which commas and gaps are written.
  rcases props with _ | w <;> rcases content with _ | x
  · show _ = commas id [first] registry
    rw [commas_single, id]
    cases first registry with
    | error f => rfl
    | ok ps => rfl
  · show _ = commas id [first, plain [.code "null"], x] registry
    simp only [commas, List.mapM_cons, id, slotOf]
    cases first registry with
    | error f => rfl
    | ok ps =>
        cases x registry with
        | error f => rfl
        | ok rs => rfl
  · show _ = commas id [first, w] registry
    simp only [commas, List.mapM_cons, id, slotOf]
    cases first registry with
    | error f => rfl
    | ok ps =>
        cases w registry with
        | error f => rfl
        | ok qs => rfl
  · show _ = commas id [first, w, x] registry
    simp only [commas, List.mapM_cons, id, slotOf]
    cases first registry with
    | error f => rfl
    | ok ps =>
        cases w registry with
        | error f => rfl
        | ok qs =>
            cases x registry with
            | error f => rfl
            | ok rs => rfl

/-- Arguments are laid out whichever of them are absent. -/
theorem layout_arguments {vs us ts : List Visit} {first : Writer} {second third : Slot}
    (tag : Layout vs first) (props : Filled us second) (content : Filled ts third) :
    Layout (vs ++ (us ++ ts)) (arguments first second third) := by
  -- Which arguments are written depends on which are there: one case for each of the four.
  rcases props with ⟨rfl, rfl⟩ | ⟨w, hw, rfl⟩ <;> rcases content with ⟨rfl, rfl⟩ | ⟨x, hx, rfl⟩
  · show Layout _ (arguments first (slotOf none) (slotOf none))
    rw [arguments_eq, List.append_nil, List.append_nil]
    show Layout vs (commas id [first])
    rw [commas_single]
    exact tag
  · show Layout _ (arguments first (slotOf none) (slotOf (some x)))
    rw [arguments_eq, List.nil_append]
    show Layout _ (commas id [first, plain [.code "null"], x])
    rw [commas_cons, commas_cons, commas_single]
    exact tag.chain (.after layout_comma (.after layout_null (.after layout_comma hx)))
  · show Layout _ (arguments first (slotOf (some w)) (slotOf none))
    rw [arguments_eq, List.append_nil]
    show Layout _ (commas id [first, w])
    rw [commas_cons, commas_single]
    exact tag.chain (.after layout_comma hw)
  · show Layout _ (arguments first (slotOf (some w)) (slotOf (some x)))
    rw [arguments_eq]
    show Layout _ (commas id [first, w, x])
    rw [commas_cons, commas_cons, commas_single]
    exact tag.chain (.after layout_comma (hw.chain (.after layout_comma hx)))

/-! ## Compounds

    A compound is pasted together from its fragments, so a statement about compounds is one about
    lists of fragments. -/

/-- The parts of a compound are written one after another. -/
theorem parts_cons (part : Part) (rest : List Part) :
    (fun registry => partsPieces registry (part :: rest))
      = chain (fun registry => partPieces registry part)
          (fun registry => partsPieces registry rest) := by
  funext registry
  rw [partsPieces, chain]

mutual

/-- An expression writes its fragments in order, however deep its compounds are nested. -/
theorem expr_writer : ∀ content : Expr,
    (fun registry => exprPieces registry content)
      = sequence (content.fragments.map Fragment.writer)
  | .atom a => by
      simp only [exprPieces]
      exact (chain_plain _).symm
  | .compound parts span => by
      simp only [exprPieces]
      exact parts_writer parts

theorem part_writer : ∀ part : Part,
    (fun registry => partPieces registry part)
      = sequence (part.fragments.map Fragment.writer)
  | .atom a => by
      simp only [partPieces]
      exact (chain_plain _).symm
  | .compound parts span => by
      simp only [partPieces]
      exact parts_writer parts
  | .interpolation content span => by
      simp only [partPieces]
      exact expr_writer content
  | .text content span => by
      simp only [partPieces]
      exact (chain_plain _).symm
  | .raw code => by
      simp only [partPieces]
      exact (chain_plain _).symm
  | .symbol helper => by
      simp only [partPieces]
      exact (chain_plain _).symm

/-- The parts of a compound are written fragment by fragment. -/
theorem parts_writer : ∀ parts : List Part,
    (fun registry => partsPieces registry parts)
      = sequence ((fragmentsOf parts).map Fragment.writer)
  | [] => rfl
  | part :: rest => by
      rw [fragmentsOf, List.map_append, Writer.sequence_append, ← part_writer part,
        ← parts_writer rest, parts_cons]

end

/-- A fragment is written as what it would be outside of compounds. -/
theorem layout_fragment (fragment : Fragment) : Layout [fragment.visit] fragment.writer := by
  cases fragment with
  | text content span => exact .text content span
  | atom a => exact .atom a
  | raw code => exact .raw code
  | symbol helper => exact .tag (.symbol helper)

/-- Compounds are laid out fragment by fragment. -/
theorem layout_compound (parts : List Part) :
    Layout [.compound parts] fun registry => partsPieces registry parts := by
  refine .compound parts ?_
  rw [parts_writer]
  induction fragmentsOf parts with
  | nil => exact .nothing
  | cons fragment rest ih => exact (layout_fragment fragment).chain ih

/-! ## Templates -/

/-- The visits of several children are those of each child, in order. -/
theorem visitsAll_eq (children : List Template) :
    visitsAll children = children.flatMap Template.visits := by
  induction children with
  | nil => rfl
  | cons child rest ih => rw [visitsAll, ih, List.flatMap_cons]

theorem visitsProperties_eq (properties : List Property) :
    visitsProperties properties = properties.flatMap Property.visits := by
  induction properties with
  | nil => rfl
  | cons property rest ih => rw [visitsProperties, ih, List.flatMap_cons]

theorem visitsItems_eq (items : List Item) : visitsItems items = items.flatMap Item.visits := by
  induction items with
  | nil => rfl
  | cons item rest ih => rw [visitsItems, ih, List.flatMap_cons]

/-- Children are written one by one, and the first fault among them is the fault of all. -/
theorem childrenPieces_eq (registry : Registry) (children : List Template) :
    childrenPieces registry children = children.mapM (templatePieces registry) := by
  induction children with
  | nil => rfl
  | cons child rest ih => rw [childrenPieces, ih, List.mapM_cons]; rfl

theorem propertiesPieces_eq (registry : Registry) (properties : List Property) :
    propertiesPieces registry properties = properties.mapM (propertyPieces registry) := by
  induction properties with
  | nil => rfl
  | cons property rest ih => rw [propertiesPieces, ih, List.mapM_cons]; rfl

theorem itemsPieces_eq (registry : Registry) (items : List Item) :
    itemsPieces registry items = items.mapM (itemPieces registry) := by
  induction items with
  | nil => rfl
  | cons item rest ih => rw [itemsPieces, ih, List.mapM_cons]; rfl

/-- A list of nodes is an array of its nodes. -/
theorem childrenPieces_bracketed (registry : Registry) (children : List Template) :
    (childrenPieces registry children).map bracketed
      = enclosed [.code "["] (commas (fun child registry => templatePieces registry child) children)
          "]" registry := by
  rw [childrenPieces_eq, enclosed, commas]
  cases children.mapM (templatePieces registry) with
  | error f => rfl
  | ok runs => rfl

/-- Several children stand in one array. -/
theorem content_many (children : List Template) :
    (fun registry => contentPieces registry (.many children))
      = fun registry => (enclosed [.code "["]
          (commas (fun child registry => templatePieces registry child) children) "]"
          registry).map some := by
  funext registry
  rw [← childrenPieces_bracketed, contentPieces]
  cases childrenPieces registry children with
  | error f => rfl
  | ok runs => rfl

/-- A call is its function, mapped to the place of the call, and its arguments in brackets. -/
theorem call_writer (tag : Tag) (props : Option Operand) (content : Content) (span : Span) :
    (Site.call (.mk tag props content span)).writer
      = enclosed (Piece.spanned nodeFunction span ++ [.code "("])
          (arguments (fun registry => tagPieces registry tag)
            (fun registry => propsPieces registry props)
            (fun registry => contentPieces registry content)) ")" := by
  funext registry
  simp only [Site.writer, callPieces, enclosed, arguments]
  -- The first of the three arguments that fails is the fault of both sides.
  cases tagPieces registry tag with
  | error f => rfl
  | ok first =>
      cases propsPieces registry props with
      | error f => rfl
      | ok second =>
          cases contentPieces registry content with
          | error f => rfl
          | ok third =>
              show Except.ok _ = Except.ok _
              simp only [List.append_assoc, List.cons_append, List.nil_append]

/-- An object that has properties stands in braces with blanks; the brace is mapped. -/
theorem object_writer (property : Property) (rest : List Property) (span : Span) :
    (Site.object (property :: rest) span).writer
      = enclosed (Piece.spanned "\x7b " span)
          (commas (fun property registry => propertyPieces registry property) (property :: rest))
          " \x7d" := by
  funext registry
  simp only [Site.writer, operandPieces, enclosed, commas, propertiesPieces_eq, List.mapM_cons]
  cases propertyPieces registry property with
  | error f => rfl
  | ok first =>
      cases rest.mapM (propertyPieces registry) with
      | error f => rfl
      | ok others => rfl

/-- An array stands in square brackets, behind a mark without text. -/
theorem array_writer (items : List Item) (span : Span) :
    (Site.array items span).writer
      = enclosed (Piece.spanned "" span ++ [.code "["])
          (commas (fun item registry => itemPieces registry item) items) "]" := by
  funext registry
  simp only [Site.writer, operandPieces, enclosed, commas, itemsPieces_eq]
  cases items.mapM (itemPieces registry) with
  | error f => rfl
  | ok runs =>
      show Except.ok _ = Except.ok _
      simp only [bracketed, List.append_assoc, List.singleton_append]

theorem property_writer (key : Expr) (value : Operand) (span : Span) :
    (fun registry => propertyPieces registry (.mk key value span))
      = chain (fun registry => keyPieces registry key)
          (chain (plain [.code ": "]) fun registry => operandPieces registry value) := by
  funext registry
  simp only [propertyPieces, chain, plain]
  cases keyPieces registry key with
  | error f => rfl
  | ok first =>
      cases operandPieces registry value with
      | error f => rfl
      | ok second => rfl

/-- A key that is put together when the code runs stands in square brackets. -/
theorem key_computed (parts : List Part) (span : Span) :
    (fun registry => keyPieces registry (.compound parts span))
      = enclosed [.code "["] (fun registry => partsPieces registry parts) "]" := by
  funext registry
  rw [keyPieces, enclosed]
  cases partsPieces registry parts with
  | error f => rfl
  | ok inner => rfl

theorem layout_expr : ∀ content : Expr,
    Layout content.visits fun registry => exprPieces registry content
  | .atom a => by
      simp only [exprPieces]
      exact .atom a
  | .compound parts _ => by
      simp only [exprPieces]
      exact layout_compound parts

/-- A key is laid out by its own visits: an atom as a key, a compound in brackets. -/
theorem layout_key : ∀ key : Expr,
    Layout key.keyVisits fun registry => keyPieces registry key
  | .atom a => .key a
  | .compound parts span => by
      -- The brackets of a computed key belong to no site.
      rw [key_computed]
      exact .bracketed (layout_compound parts)

mutual

/-- **EVERY TEMPLATE IS LAID OUT**: its visits are written by its writer. -/
theorem layout_template : ∀ t : Template,
    Layout t.visits fun registry => templatePieces registry t
  | .element tag parsed plan span => by
      simp only [templatePieces]
      exact layout_plan tag plan
  | .text content span => by
      simp only [templatePieces]
      exact .text content span
  | .interpolation content span => by
      simp only [templatePieces]
      exact layout_expr content
  | .compound parts span => by
      simp only [templatePieces]
      exact layout_compound parts

/-- An element is visited before its plan is; without a plan that visit is a fault. -/
theorem layout_plan (tag : String) : ∀ plan : Plan,
    Layout (plan.visits tag) fun registry => planPieces registry tag plan
  | .missing => by
      simp only [planPieces]
      exact .missing tag
  | .call c => by
      simp only [planPieces]
      exact .element tag (layout_call c)
  | .atom a => by
      simp only [planPieces]
      exact .element tag (.atom a)

/-- A call is laid out as its tag, its props and its content, in this order. -/
theorem layout_call : ∀ c : Call, Layout c.visits fun registry => callPieces registry c
  | .mk tag props content span => by
      have inner := layout_arguments (.tag tag) (filled_props props) (filled_content content)
      exact .call _ (call_writer tag props content span) inner

/-- Props fill their place among the arguments, or are left out and visit nothing. -/
theorem filled_props : ∀ props : Option Operand,
    Filled (visitsProps props) fun registry => propsPieces registry props
  | none => .inl ⟨rfl, by simp only [propsPieces]⟩
  | some value => .inr ⟨_, layout_operand value, by simp only [propsPieces]⟩

theorem filled_content : ∀ content : Content,
    Filled content.visits fun registry => contentPieces registry content
  | .absent => .inl ⟨rfl, by simp only [contentPieces]⟩
  | .many children => by
      have inner := layout_commas Template.visits
        (fun child registry => templatePieces registry child) children (layout_children children)
      rw [← visitsAll_eq] at inner
      exact .inr ⟨_, inner.bracketed, content_many children⟩
  | .one child => .inr ⟨_, layout_template child, by simp only [contentPieces]⟩
  | .operand value => .inr ⟨_, layout_operand value, by simp only [contentPieces]⟩

/-- Each child in a list of children is laid out by its own visits. -/
theorem layout_children : ∀ children : List Template, ∀ child ∈ children,
    Layout child.visits fun registry => templatePieces registry child
  | [], _, h => nomatch h
  | first :: rest, child, h => by
      rcases List.mem_cons.mp h with h | h
      · exact h ▸ layout_template first
      · exact layout_children rest child h

theorem layout_operand : ∀ value : Operand,
    Layout value.visits fun registry => operandPieces registry value
  | .call c => by
      simp only [operandPieces]
      exact layout_call c
  | .object properties span => by
      have inner := layout_commas Property.visits
        (fun property registry => propertyPieces registry property) properties
        (layout_properties properties)
      rw [← visitsProperties_eq] at inner
      cases properties with
      | nil => exact .noProperties span
      | cons property rest => exact .object _ span (object_writer property rest span) inner
  | .array items span => by
      have inner := layout_commas Item.visits (fun item registry => itemPieces registry item)
        items (layout_items items)
      rw [← visitsItems_eq] at inner
      exact .array items span (array_writer items span) inner
  | .atom a => by
      simp only [operandPieces]
      exact .atom a
  | .compound parts span => by
      simp only [operandPieces]
      exact layout_compound parts

theorem layout_properties : ∀ properties : List Property, ∀ property ∈ properties,
    Layout property.visits fun registry => propertyPieces registry property
  | [], _, h => nomatch h
  | first :: rest, property, h => by
      rcases List.mem_cons.mp h with h | h
      · exact h ▸ layout_property first
      · exact layout_properties rest property h

/-- A property is laid out as its key and its value. -/
theorem layout_property : ∀ property : Property,
    Layout property.visits fun registry => propertyPieces registry property
  | .mk key value span => by
      rw [property_writer]
      exact (layout_key key).chain (.after layout_colon (layout_operand value))

theorem layout_items : ∀ items : List Item, ∀ item ∈ items,
    Layout item.visits fun registry => itemPieces registry item
  | [], _, h => nomatch h
  | first :: rest, item, h => by
      rcases List.mem_cons.mp h with h | h
      · exact h ▸ layout_item first
      · exact layout_items rest item h

theorem layout_item : ∀ item : Item,
    Layout item.visits fun registry => itemPieces registry item
  | .raw code => by
      simp only [itemPieces]
      exact .raw code
  | .operand value => by
      simp only [itemPieces]
      exact layout_operand value

end

/-- The visits of what a render function returns: several roots stand in a fragment. -/
def visitsReturned : List Template → List Visit
  | [] => []
  | [child] => child.visits
  | children => .tag (.symbol Helper.fragment) :: visitsAll children

/-- Several roots add one visit to those of the roots: the tag that wraps them. -/
theorem mem_visitsReturned {children : List Template} {v : Visit}
    (h : v ∈ visitsReturned children) :
    v ∈ visitsAll children ∨ v = .tag (.symbol Helper.fragment) ∧ 1 < children.length := by
  match children with
  | [] => exact nomatch h
  | [child] =>
      rw [visitsAll, visitsAll, List.append_nil]
      exact .inl h
  | first :: second :: rest =>
      rcases List.mem_cons.mp h with h | h
      · exact .inr ⟨h, by simp⟩
      · exact .inl h

/-- Several roots are written as a call of the fragment with an array of them. -/
theorem returned_several (first second : Template) (rest : List Template) :
    (fun registry => returned registry (first :: second :: rest))
      = enclosed [.code nodeFunction, .code "("]
          (chain (fun registry => tagPieces registry (.symbol Helper.fragment))
            (chain (plain [.code ", null, "])
              (enclosed [.code "["]
                (commas (fun child registry => templatePieces registry child)
                  (first :: second :: rest)) "]"))) ")" := by
  funext registry
  simp only [returned, enclosed, chain, plain, tagPieces, commas, childrenPieces_eq]
  -- Both sides fail at the fragment first, and then at the first root that fails.
  cases symbolPieces registry Helper.fragment with
  | error f => rfl
  | ok name =>
      cases (first :: second :: rest).mapM (templatePieces registry) with
      | error f => rfl
      | ok runs =>
          show Except.ok _ = Except.ok _
          simp only [bracketed, List.cons_append, List.nil_append, List.append_assoc]

/-- What a render function returns is laid out. -/
theorem layout_returned : ∀ children : List Template,
    Layout (visitsReturned children) fun registry => returned registry children
  | [] => layout_null
  | [child] => layout_template child
  | first :: second :: rest => by
      have inner := layout_commas Template.visits
        (fun child registry => templatePieces registry child) (first :: second :: rest)
        (layout_children (first :: second :: rest))
      rw [← visitsAll_eq] at inner
      -- The call of the fragment is written like any other but stands for no node.
      rw [returned_several]
      have name : Layout [.tag (.symbol Helper.fragment)] _ := .tag (.symbol Helper.fragment)
      exact .wrapper (name.chain (.after layout_noProps inner.bracketed))

end Vdom.Emit
