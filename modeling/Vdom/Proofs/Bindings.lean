import Mathlib.Data.List.Nodup
import Vdom.Proofs.Reported
/-!
# Bindings — the names that a render function binds

The first line of a render function binds names from the runtime global. Helpers are told apart by
number and names by their text, so several helpers may need one name, and a helper may even be
named like the node function.

* **`Binds`** — what a list of names is to a sequence of needed ones: it starts with the name of
  the node function, has no name twice, leaves none out, and keeps the order in which they are
  first needed.
* **`Binds.addName`** — one more needed name; by induction the bound names bind all needed ones.
* **`namesOf`** — the names written among pieces; `Layout.named` says that they are those of the
  helpers used there.
* **`generate_binds`** — the main theorem: the line of names, and that the rest of the function
  names nothing else if the template lists the helpers that it refers to.
-/

namespace Vdom.Emit

/-! ## Names bound once -/

/-- Names that bind a sequence of needed names after a first one. -/
structure Binds (first : String) (needed names : List String) : Prop where
  starts : names.head? = some first
  once : names.Nodup
  exact : ∀ name, name ∈ names ↔ name = first ∨ name ∈ needed
  /-- Behind the first, names stand in the order in which they are first needed. -/
  ordered : names.tail.Pairwise fun x y => needed.idxOf x < needed.idxOf y

/-- A later need does not move the first occurrence of an earlier name. -/
theorem idxOf_lt_append {needed later : List String} {x y : String} (hy : y ∈ needed)
    (before : needed.idxOf x < needed.idxOf y) :
    (needed ++ later).idxOf x < (needed ++ later).idxOf y := by
  have hx : x ∈ needed :=
    List.idxOf_lt_length_iff.mp (Nat.lt_trans before (List.idxOf_lt_length_iff.mpr hy))
  rw [List.idxOf_append_of_mem hx, List.idxOf_append_of_mem hy]
  exact before

namespace Binds

variable {first : String} {needed names : List String}

theorem alone (first : String) : Binds first [] [first] where
  starts := rfl
  once := List.nodup_singleton first
  exact := by simp
  ordered := .nil

/-- Behind the first, only needed names are bound. -/
theorem mem_tail (h : Binds first needed names) {name : String} (there : name ∈ names.tail) :
    name ∈ needed := by
  obtain ⟨rest, rfl⟩ := List.head?_eq_some_iff.mp h.starts
  have fresh : first ∉ rest := (List.nodup_cons.mp h.once).1
  rcases (h.exact name).mp (List.mem_cons_of_mem first there) with rfl | needed
  · exact absurd there fresh
  · exact needed

/-- A name that is bound already is not bound again. -/
theorem again (h : Binds first needed names) {name : String} (there : name ∈ names) :
    Binds first (needed ++ [name]) names where
  starts := h.starts
  once := h.once
  exact := by
    intro x
    rw [h.exact, List.mem_append, List.mem_singleton, ← or_assoc]
    constructor
    · exact .inl
    · rintro (known | rfl)
      · exact known
      · exact (h.exact x).mp there
  ordered := h.ordered.imp_of_mem fun _ hy before => idxOf_lt_append (h.mem_tail hy) before

/-- A new name is bound behind all others. -/
theorem behind (h : Binds first needed names) {name : String} (new : name ∉ names) :
    Binds first (needed ++ [name]) (names ++ [name]) where
  starts := by rw [List.head?_append, h.starts]; rfl
  once := List.nodup_append.mpr
    ⟨h.once, List.nodup_singleton name, fun x hx y hy same =>
      new (List.mem_singleton.mp hy ▸ same ▸ hx)⟩
  exact := by
    intro x
    rw [List.mem_append, List.mem_append, h.exact, or_assoc]
  ordered := by
    obtain ⟨rest, rfl⟩ := List.head?_eq_some_iff.mp h.starts
    have unneeded : name ∉ needed := fun hn => new ((h.exact name).mpr (.inr hn))
    show (rest ++ [name]).Pairwise _
    refine List.pairwise_append.mpr ⟨?_, List.pairwise_singleton _ _, ?_⟩
    · exact h.ordered.imp_of_mem fun _ hy before => idxOf_lt_append (h.mem_tail hy) before
    · intro x hx y hy
      have needed : x ∈ needed := h.mem_tail hx
      rw [List.mem_singleton.mp hy, List.idxOf_append_of_mem needed, List.idxOf_append,
        if_neg unneeded]
      exact Nat.lt_of_lt_of_le (List.idxOf_lt_length_iff.mpr needed) (Nat.le_add_left _ _)

/-- **ONE MORE NEED**: a name that is bound stays where it is, and a new one comes behind the
    others. -/
theorem addName (h : Binds first needed names) (name : String) :
    Binds first (needed ++ [name]) (addName names name) := by
  rw [Emit.addName]
  split
  · rename_i there
    exact h.again (List.contains_iff_mem.mp there)
  · rename_i new
    exact h.behind fun there => new (List.contains_iff_mem.mpr there)

end Binds

/-- **EACH NAME ONCE**, by induction on the needed names from the last on. -/
theorem binds_bound (needed : List String) : Binds nodeFunction needed (bound needed) := by
  induction needed using List.reverseRecOn with
  | nil => exact .alone nodeFunction
  | append_singleton needed name ih =>
      rw [bound, List.foldl_append]
      exact ih.addName name

/-! ## Names that are written -/

/-- The texts that are written as the name of a helper: those right behind its use. -/
def namesOf : List Piece → List String
  | [] => []
  | .use _ :: .code name :: rest => name :: namesOf rest
  | _ :: rest => namesOf rest

variable {registry : Registry}

/-- Whether pieces name each helper that they use, right behind the use and as the registry does.
    What follows the pieces is arbitrary, so that no use takes its name from there. -/
def NamesUses (registry : Registry) (ps : List Piece) : Prop :=
  ∀ rest, (namesOf (ps ++ rest)).map some
    = (usesOf ps).map registry.name? ++ (namesOf rest).map some

/-- What uses no helper names none. -/
theorem namesUses_silent {ps : List Piece} (silent : usesOf ps = []) : NamesUses registry ps := by
  intro rest
  rw [silent]
  show _ = (namesOf rest).map some
  induction ps with
  | nil => rfl
  | cons p ps ih =>
      cases p with
      | code text => exact ih silent
      | mark origin => exact ih silent
      | use helper => exact nomatch silent

theorem NamesUses.append {ps qs : List Piece} (first : NamesUses registry ps)
    (second : NamesUses registry qs) : NamesUses registry (ps ++ qs) := by
  intro rest
  rw [List.append_assoc, first, second, usesOf_append, List.map_append, List.append_assoc]

/-- Brackets name nothing. -/
theorem NamesUses.enclosed {before : List Piece} {inner : Writer} {after : String} {ps : List Piece}
    (written : Writer.enclosed before inner after registry = .ok ps) (silent : usesOf before = [])
    (named : ∀ {qs : List Piece}, inner registry = .ok qs → NamesUses registry qs) :
    NamesUses registry ps := by
  obtain ⟨qs, hq, rfl⟩ := Writer.enclosed_ok written
  exact (namesUses_silent silent).append ((named hq).append (namesUses_silent rfl))

/-- A helper is named where it is used. -/
theorem namesUses_symbol {helper : Helper} {ps : List Piece}
    (written : symbolPieces registry helper = .ok ps) : NamesUses registry ps := by
  rw [symbolPieces, Registry.resolve] at written
  cases hname : registry.name? helper with
  | none => rw [hname] at written; cases written
  | some name =>
      rw [hname] at written
      rw [← Except.ok.inj written]
      intro rest
      show some name :: (namesOf rest).map some = [registry.name? helper] ++ _
      rw [hname]
      rfl

/-- **EVERY USE IS SPELLED OUT**, by induction on the layout. -/
theorem Layout.named {vs : List Visit} {w : Writer} (layout : Layout vs w) :
    ∀ {ps : List Piece}, w registry = .ok ps → NamesUses registry ps := by
  induction layout with
  | nothing =>
      intro ps hps
      rw [← Except.ok.inj hps]
      exact namesUses_silent rfl
  | separator text _ =>
      intro ps hps
      rw [← Except.ok.inj hps]
      exact namesUses_silent rfl
  | chain _ _ ihw ihx =>
      intro ps hps
      obtain ⟨qs, rs, hq, hr, rfl⟩ := Writer.chain_ok hps
      exact (ihw hq).append (ihx hr)
  | bracketed _ ih => intro ps hps; exact .enclosed hps rfl ih
  | wrapper _ ih => intro ps hps; exact .enclosed hps rfl ih
  | missing tag => intro ps hps; exact nomatch hps
  | element tag _ ih => intro ps hps; exact ih hps
  | text content span =>
      intro ps hps
      rw [← Except.ok.inj hps]
      exact namesUses_silent (usesOf_spanned _ span)
  | atom a =>
      intro ps hps
      rw [← Except.ok.inj hps]
      exact namesUses_silent (usesOf_spanned _ a.span)
  | key a =>
      -- A key uses no helper, whether it is quoted or computed.
      intro ps hps
      refine namesUses_silent (List.eq_nil_iff_forall_not_mem.mpr fun h there => ?_)
      have demanded : Demanded h [.site (.key a)] := ((Layout.key a).uses hps).mp there
      rw [demanded_site] at demanded
      exact demanded_nil demanded
  | tag t =>
      intro ps hps
      cases t with
      | name tag => rw [← Except.ok.inj hps]; exact namesUses_silent rfl
      | dynamic code => rw [← Except.ok.inj hps]; exact namesUses_silent rfl
      | symbol helper => exact namesUses_symbol hps
  | raw code =>
      intro ps hps
      rw [← Except.ok.inj hps]
      exact namesUses_silent rfl
  | compound parts _ ih => intro ps hps; exact ih hps
  | call c shape _ ih =>
      intro ps hps
      rw [shape] at hps
      exact .enclosed hps (usesOf_opened _ _ _) ih
  | noProperties span =>
      intro ps hps
      rw [← Except.ok.inj hps]
      exact namesUses_silent (usesOf_spanned _ span)
  | object properties span shape _ ih =>
      intro ps hps
      rw [shape] at hps
      exact .enclosed hps (usesOf_spanned _ span) ih
  | array items span shape _ ih =>
      intro ps hps
      rw [shape] at hps
      exact .enclosed hps (usesOf_opened _ _ _) ih

/-! ## Render functions -/

/-- The frame of a render function, line by line. -/
theorem framed_lines (o : Options) (names : List String) (text : String) :
    o.around (head names) (tail (text ++ closing))
      = o.lead ++ "function render(_ctx) \x7b "
        ++ ("\n  " ++ "const \x7b " ++ Text.join ", " names ++ " \x7d = " ++ o.runtimeGlobalName)
        ++ ("\n" ++ "\n  " ++ "return " ++ text ++ "\n" ++ " \x7d") := by
  have inner : Buffer.lineBreak 1 = "\n  " := rfl
  have outer : Buffer.lineBreak 0 = "\n" := rfl
  unfold Options.around head tail closing
  simp only [inner, outer, String.append_assoc]

/-- **EACH NEEDED NAME IS BOUND ONCE**: the first line of a render function binds the name of the
    node function and, behind it and in order of first need, those of the helpers that the template
    lists and of the fragment of several roots. In what is returned every helper is named right
    behind its use, and if the template lists the helpers that its roots refer to, all these names
    are bound. -/
theorem generate_binds {registry : Registry} {options : Options} {root : Root} {g : Generated}
    (written : generate registry options root = .ok g) :
    ∃ (needed names : List String) (body : List Piece),
      (root.helpers ++ if 1 < root.children.length then [Helper.fragment] else []).map
          registry.name? = needed.map some
      ∧ Binds "h" needed names
      ∧ g.code = options.lead ++ "function render(_ctx) \x7b "
          ++ ("\n  " ++ "const \x7b " ++ Text.join ", " names ++ " \x7d = "
            ++ options.runtimeGlobalName)
          ++ ("\n" ++ "\n  " ++ "return " ++ codeOf body ++ "\n" ++ " \x7d")
      ∧ returned registry root.children = .ok body
      ∧ (namesOf body).map some = (usesOf body).map registry.name?
      ∧ (∀ h, h ∈ usesOf body ↔ (h = Helper.fragment ∧ 1 < root.children.length)
          ∨ ∃ child ∈ root.children, child.Refers h)
      ∧ ((∀ h, (∃ child ∈ root.children, child.Refers h) → h ∈ root.helpers) →
          ∀ name ∈ namesOf body, name ∈ names) := by
  obtain ⟨found, body, hfound, hbody, rfl⟩ := generate_ok written
  have layout := layout_returned root.children
  have needed := names_of_mapM_resolve hfound
  have named : (namesOf body).map some = (usesOf body).map registry.name? := by
    have all := layout.named hbody []
    rwa [List.append_nil, namesOf, List.map_nil, List.append_nil] at all
  have uses : ∀ h, h ∈ usesOf body ↔ (h = Helper.fragment ∧ 1 < root.children.length)
      ∨ ∃ child ∈ root.children, child.Refers h := by
    intro h
    rw [layout.uses hbody, demanded_returned]
  refine ⟨found, bound found, body, needed, binds_bound found, ?_, hbody, named, uses, ?_⟩
  · rw [code_result, codeOf_framed, opening_binding, framed_lines]
  · intro listed name there
    have known : some name ∈ (usesOf body).map registry.name? :=
      named ▸ List.mem_map_of_mem there
    obtain ⟨helper, used, hname⟩ := List.mem_map.mp known
    -- Whatever the body uses is among the bound helpers, so its name was found.
    have bindable : helper ∈ boundHelpers root := by
      rcases (uses helper).mp used with several | refers
      · exact mem_boundHelpers.mpr (.inr several)
      · exact mem_boundHelpers.mpr (.inl (listed helper refers))
    have resolved : some name ∈ found.map some :=
      needed ▸ List.mem_map.mpr ⟨helper, bindable, hname⟩
    obtain ⟨_, there, same⟩ := List.mem_map.mp resolved
    exact mem_bound.mpr (.inr (Option.some.inj same ▸ there))

/-- A helper named like the node function, and two helpers of one name. -/
def aliases : Registry := Registry.initial.assignAll [(⟨9⟩, "h"), (⟨6⟩, "show"), (⟨10⟩, "show")]

/-- Two roots that refer to helpers of shared names. -/
def aliased : Root :=
  let shown : Expr := .compound [.symbol ⟨10⟩, .raw "(a)"] .stub
  let call : Call := .mk (.symbol ⟨9⟩) none .absent .stub
  { children := [.interpolation shown .stub, .element "p" [] (.call call) .stub]
    helpers := [⟨6⟩, ⟨9⟩, ⟨10⟩, ⟨8⟩, ⟨6⟩], source := "", span := .stub }

/-- Two helpers of one name, and one with the name of the first, are bound without repetition. -/
theorem aliased_bound :
    ∃ g, generate aliases .standard aliased = .ok g
      ∧ ∃ needed names body, Binds "h" needed names
        ∧ aliased.helpers.map aliases.name? ++ [some "Fragment"] = needed.map some
        ∧ returned aliases aliased.children = .ok body
        ∧ ∀ name ∈ namesOf body, name ∈ names := by
  obtain ⟨g, written⟩ : ∃ g, generate aliases .standard aliased = .ok g := ⟨_, rfl⟩
  obtain ⟨needed, names, body, known, binds, -, hbody, -, -, closed⟩ := generate_binds written
  have listed : ∀ h, (∃ child ∈ aliased.children, child.Refers h) → h ∈ aliased.helpers := by
    intro h refers
    have demanded : Demand.name h ∈ [Demand.name ⟨10⟩, .plan "p" true, .name ⟨9⟩] :=
      (children_refers aliased.children).mp refers
    rcases demanded with _ | ⟨_, _ | ⟨_, _ | ⟨_, ⟨⟩⟩⟩⟩
    · decide
    · decide
  exact ⟨g, written, needed, names, body, binds, known, hbody, closed listed⟩

end Vdom.Emit
