import Mathlib.Data.List.Sort
import Vdom.Proofs.Reported
/-!
# Histories — what code owes to the past of its registry

A registry is the outcome of a history of minting and naming. Code looks at it only where it
writes the name of a helper, so two histories that agree on those names are as good as one, and
nothing that happens later takes a template its code away.

* **`Layout.agree`** — writing depends on the names that its visits demand.
* **`generate_agree`** — so does a whole render function, on those of `Root.Needs`.
* **`Demand.Met.later`** — what is met once is met after any further history.
* **`generate_history`** — the main theorem.
-/

namespace Vdom

/-- Whether code for a template looks up the name of a helper: the template lists it, it is the
    fragment of several roots, or a root refers to it. -/
def Root.Needs (root : Root) (h : Helper) : Prop :=
  h ∈ root.helpers ∨ (h = Helper.fragment ∧ 1 < root.children.length)
    ∨ ∃ child ∈ root.children, child.Refers h

namespace Registry

/-- The last name given to a helper stands, whatever came before it. -/
theorem name?_run_of_given {history : List Action} {h : Helper} {name : String}
    {before later : List (Helper × String)} (last : given history = before ++ (h, name) :: later)
    (silent : ∀ entry ∈ later, entry.1 ≠ h) : (run history).name? h = some name := by
  have found : (given history).reverse.lookup h = some name := by
    rw [List.lookup_eq_some_iff]
    refine ⟨later.reverse, before.reverse, ?_, ?_⟩
    · rw [last, List.reverse_append, List.reverse_cons, List.append_assoc]
      rfl
    · intro entry there
      exact bne_iff_ne.mpr (silent entry (List.mem_reverse.mp there)).symm
  rw [name?_run, found]
  rfl

/-- A helper that was given no name has its built-in one or none. -/
theorem name?_run_of_not_given {history : List Action} {h : Helper}
    (silent : ∀ entry ∈ given history, entry.1 ≠ h) :
    (run history).name? h = Helper.builtIns.lookup h := by
  have absent : (given history).reverse.lookup h = none := by
    rw [List.lookup_eq_none_iff]
    intro entry there
    exact bne_iff_ne.mpr (silent entry (List.mem_reverse.mp there)).symm
  rw [name?_run, absent]
  rfl

end Registry

end Vdom

namespace Vdom.Emit

open Writer (enclosed)

variable {r s : Registry}

/-! ## Two registries -/

/-- Looking a helper up sees only its name. -/
theorem resolve_agree {h : Helper} (same : r.name? h = s.name? h) : r.resolve h = s.resolve h := by
  rw [Registry.resolve, Registry.resolve, same]

/-- Registries that agree on the names of some helpers resolve them alike. -/
theorem mapM_resolve_agree {helpers : List Helper} (same : ∀ h ∈ helpers, r.name? h = s.name? h) :
    helpers.mapM r.resolve = helpers.mapM s.resolve := by
  induction helpers with
  | nil => rfl
  | cons helper rest ih =>
      rw [List.mapM_cons, List.mapM_cons, resolve_agree (same helper List.mem_cons_self),
        ih fun h there => same h (List.mem_cons_of_mem helper there)]

theorem enclosed_agree {w : Writer} (same : w r = w s) (before : List Piece) (after : String) :
    enclosed before w after r = enclosed before w after s := by
  rw [enclosed, enclosed, same]

/-- **WRITING LOOKS AT DEMANDED NAMES ONLY**, by induction on the layout. -/
theorem Layout.agree {vs : List Visit} {w : Writer} (layout : Layout vs w)
    (same : ∀ h, Demanded h vs → r.name? h = s.name? h) : w r = w s := by
  induction layout with
  | nothing => rfl
  | separator text _ => rfl
  | chain _ _ ihw ihx =>
      have first := ihw fun h demanded => same h ((demanded_append _ _).mpr (.inl demanded))
      have second := ihx fun h demanded => same h ((demanded_append _ _).mpr (.inr demanded))
      rw [Writer.chain, Writer.chain, first, second]
  | bracketed _ ih => exact enclosed_agree (ih same) _ _
  | wrapper _ ih => exact enclosed_agree (ih same) _ _
  | missing tag => rfl
  | element tag _ ih => exact ih fun h demanded => same h ((demanded_element _ _ _).mpr demanded)
  | text content span => rfl
  | atom a => rfl
  | key a =>
      show keyPieces r (.atom a) = keyPieces s (.atom a)
      rw [keyPieces, keyPieces]
  -- The name of a helper is the only thing that is looked up, and its visit demands it.
  | tag t =>
      cases t with
      | name tag => rfl
      | dynamic code => rfl
      | symbol helper =>
          show symbolPieces r helper = symbolPieces s helper
          rw [symbolPieces, symbolPieces,
            resolve_agree (same helper ((demanded_tag _ _).mpr (.inl rfl)))]
  | raw code => rfl
  | compound parts _ ih =>
      refine ih fun h demanded => same h ?_
      rw [Demanded, demands_fragments] at demanded
      rw [Demanded, List.flatMap_singleton]
      exact demanded
  | call c shape _ ih =>
      rw [shape]
      exact enclosed_agree (ih fun h demanded => same h ((demanded_site _ _).mpr demanded)) _ _
  | noProperties span => rfl
  | object properties span shape _ ih =>
      rw [shape]
      exact enclosed_agree (ih fun h demanded => same h ((demanded_site _ _).mpr demanded)) _ _
  | array items span shape _ ih =>
      rw [shape]
      exact enclosed_agree (ih fun h demanded => same h ((demanded_site _ _).mpr demanded)) _ _

/-- A render function looks at the names of the helpers that its template needs. -/
theorem generate_agree {root : Root} (same : ∀ h, root.Needs h → r.name? h = s.name? h)
    (options : Options) : generate r options root = generate s options root := by
  have bindings : (boundHelpers root).mapM r.resolve = (boundHelpers root).mapM s.resolve := by
    refine mapM_resolve_agree fun h there => same h ?_
    rcases mem_boundHelpers.mp there with listed | several
    · exact .inl listed
    · exact .inr (.inl several)
  have body : returned r root.children = returned s root.children := by
    refine (layout_returned root.children).agree fun h demanded => same h ?_
    rcases (demanded_returned root.children).mp demanded with several | refers
    · exact .inr (.inl several)
    · exact .inr (.inr refers)
  rw [generate_eq, generate_eq, bindings, body]

/-! ## Later names -/

/-- What is met is met after any further history. -/
theorem Demand.Met.later {d : Demand} (met : d.Met r) (later : List Registry.Action) :
    d.Met (later.foldl Registry.after r) := by
  cases d with
  | plan tag given => exact met
  | name helper => exact Registry.Named.foldl_after met later

/-- Marks point to the starts of the sites that they track. -/
theorem Tracks.origins {sites : List Site} {ps : List Piece} (tracks : Tracks r sites ps) :
    (placesOf ps).map Place.origin = sites.map fun site => site.span.start := by
  rw [Tracks] at tracks
  generalize placesOf ps = places at tracks
  induction tracks with
  | nil => rfl
  | cons shows _ ih => rw [List.map_cons, List.map_cons, shows.1, ih]

/-- The places of the template that a result is mapped to depend on the template alone. -/
theorem origins_result {options : Options} {root : Root} {helpers : List Helper}
    {names : List String} {body : List Piece}
    (written : returned r root.children = .ok body) :
    ((Buffer.empty options).addAll (framed options helpers names body)).result.mappings.map
        Mapping.origin
      = if options.sourceMap then root.sites.map fun site => site.span.start else [] := by
  have tracks := (layout_returned root.children).tracks written
  rw [sitesOf_returned] at tracks
  rw [result_framed]
  cases options.sourceMap with
  | false => rfl
  | true =>
      show List.map Mapping.origin (List.map _ (placesOf body)) = _
      rw [List.map_map]
      exact tracks.origins

/-- The helpers of a result depend on the template alone. -/
theorem helpers_result {options : Options} {root : Root} {found others : List String}
    {body other : List Piece} (written : returned r root.children = .ok body)
    (rewritten : returned s root.children = .ok other) :
    ((Buffer.empty options).addAll
        (framed options (boundHelpers root) (bound found) body)).result.helpers
      = ((Buffer.empty options).addAll
        (framed options (boundHelpers root) (bound others) other)).result.helpers := by
  have layout := layout_returned root.children
  rw [result_framed, result_framed]
  refine (Helper.Usage.ascending _).eq_of_mem_iff (Helper.Usage.ascending _) fun h => ?_
  rw [mem_foldl_insert, mem_foldl_insert, List.mem_append, List.mem_append, layout.uses written,
    layout.uses rewritten]

/-- Code that was written once can be written after any further history, with the same helpers and
    from the same places of the template. -/
theorem generate_later {options : Options} {root : Root} {g : Generated}
    (written : generate r options root = .ok g) (later : List Registry.Action) :
    ∃ g', generate (later.foldl Registry.after r) options root = .ok g'
      ∧ g'.helpers = g.helpers
      ∧ g'.mappings.map Mapping.origin = g.mappings.map Mapping.origin := by
  have met := (answers_generate options root).ok_iff.mp ⟨g, written⟩
  obtain ⟨g', rewritten⟩ :=
    (answers_generate options root).ok_iff.mpr fun d hd => (met d hd).later later
  obtain ⟨found, body, -, hbody, rfl⟩ := generate_ok written
  obtain ⟨others, other, -, hother, rfl⟩ := generate_ok rewritten
  refine ⟨_, rewritten, helpers_result hother hbody, ?_⟩
  rw [origins_result hother, origins_result hbody]

/-- **ONLY CURRENT NAMES COUNT**. After a history of minting and naming, a helper has the name that
    was given to it last, its built-in name if none was, and no name if it has none of those either.
    Two histories that end in the same names for the helpers a template needs lead to the same
    outcome, be it code or a fault. And where a history ends in code, so does every longer one, with
    the same helpers and from the same places of the template. -/
theorem generate_history :
    (∀ history h name before later, Registry.given history = before ++ (h, name) :: later →
      (∀ entry ∈ later, entry.1 ≠ h) → (Registry.run history).name? h = some name)
    ∧ (∀ history h, (∀ entry ∈ Registry.given history, entry.1 ≠ h) →
      (Registry.run history).name? h = Helper.builtIns.lookup h)
    ∧ (∀ one other options root,
      (∀ h, root.Needs h → (Registry.run one).name? h = (Registry.run other).name? h) →
      generate (Registry.run one) options root = generate (Registry.run other) options root)
    ∧ ∀ history later options root g, generate (Registry.run history) options root = .ok g →
      ∃ g', generate (Registry.run (history ++ later)) options root = .ok g'
        ∧ g'.helpers = g.helpers
        ∧ g'.mappings.map Mapping.origin = g.mappings.map Mapping.origin := by
  refine ⟨?_, ?_, ?_, ?_⟩
  · intro history h name before later last silent
    exact Registry.name?_run_of_given last silent
  · intro history h silent
    exact Registry.name?_run_of_not_given silent
  · intro one other options root same
    exact generate_agree same options
  -- A longer history is the shorter one, gone on with.
  · intro history later options root g written
    rw [Registry.run, List.foldl_append]
    exact generate_later written later

/-- One helper is minted, named and renamed. -/
def renamed : List Registry.Action :=
  [.mint, .register [(⟨9⟩, "first")], .register [(⟨9⟩, "show")]]

/-- The same helper is named along with another. -/
def along : List Registry.Action := [.register [(⟨9⟩, "show"), (⟨70⟩, "other")]]

/-- A root that refers to that helper. -/
def shown : Root :=
  { children := [.compound [.symbol ⟨9⟩, .raw "(a)"] .stub], helpers := [⟨9⟩, ⟨9⟩], source := "",
    span := .stub }

/-- Two histories that end in the same name lead to the same code, and where the helper is renamed
    once more, there is code with the same helpers. -/
theorem shown_alike :
    (Registry.run renamed).name? ⟨9⟩ = some "show"
    ∧ generate (Registry.run renamed) .standard shown
      = generate (Registry.run along) .standard shown
    ∧ ∃ g g', generate (Registry.run renamed) .standard shown = .ok g
      ∧ generate (Registry.run (renamed ++ [.register [(⟨9⟩, "h")]])) .standard shown = .ok g'
      ∧ g'.helpers = g.helpers := by
  obtain ⟨last, -, alike, later⟩ := generate_history
  have name : (Registry.run renamed).name? ⟨9⟩ = some "show" :=
    last renamed ⟨9⟩ "show" [(⟨9⟩, "first")] [] rfl nofun
  have needed : ∀ h, shown.Needs h → h = ⟨9⟩ := by
    rintro h (listed | ⟨-, several⟩ | refers)
    · rcases listed with _ | ⟨_, _ | ⟨_, ⟨⟩⟩⟩
      · rfl
      · rfl
    · exact absurd several (by decide)
    · have demanded : Demand.name h ∈ [Demand.name ⟨9⟩] :=
        (children_refers shown.children).mp refers
      exact (Demand.name.inj (List.mem_singleton.mp demanded))
  refine ⟨name, alike renamed along .standard shown fun h needs => ?_, ?_⟩
  · rw [needed h needs]
    rfl
  · obtain ⟨g, written⟩ : ∃ g, generate (Registry.run renamed) .standard shown = .ok g := ⟨_, rfl⟩
    obtain ⟨g', rewritten, helpers, -⟩ :=
      later renamed [.register [(⟨9⟩, "h")]] .standard shown g written
    exact ⟨g, g', written, rewritten, helpers⟩

end Vdom.Emit
