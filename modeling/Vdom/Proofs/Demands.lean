import Vdom.Proofs.Frame
import Vdom.Proofs.Layout
import Vdom.Proofs.Registry
/-!
# Demands — when code can be written, and what is missing if it cannot

* **`Root.demands`** — what a template needs, in the order in which it is needed: a name for every
  bound helper, then, along the emitted tree, a plan for every element and a name for the tag of
  every call and for every helper in a compound.
* **`Answers`** — a result that agrees with a list of demands: success if all are met, and the
  fault of the first that is not.
* **`Layout.answers`** — every writer answers the demands of its visits, by induction on the
  layout; what is written on the way does not matter.
-/

namespace Vdom.Emit

/-- What has to be there before code can be written. -/
inductive Demand where
  /-- A plan for an element, and whether it is there. -/
  | plan (tag : String) (given : Bool)
  /-- A name for a helper. -/
  | name (helper : Helper)
  deriving DecidableEq, Repr

namespace Demand

/-- Whether a demand is met. -/
def Met (registry : Registry) : Demand → Prop
  | .plan _ given => given = true
  | .name helper => registry.Named helper

instance (registry : Registry) : (d : Demand) → Decidable (d.Met registry)
  | .plan _ given => inferInstanceAs (Decidable (given = true))
  | .name helper => inferInstanceAs (Decidable (registry.Named helper))

/-- The fault of a demand that is not met. -/
def fault : Demand → Fault
  | .plan tag _ => .unplanned tag
  | .name helper => .unnamed helper

/-- What the report of an unmet demand says. -/
def complaint : Demand → String
  | .plan tag _ => "element <" ++ tag ++ "> reached codegen without a codegen node"
  | .name helper =>
    "runtime helper #" ++ toString helper.id.toNat
      ++ " is referenced by the AST but was never registered"

/-- The message of a fault is the complaint about its demand. -/
theorem message_fault (d : Demand) : d.fault.message = d.complaint := by
  cases d with
  | plan tag given => rfl
  | name helper => rfl

/-- The first demand of a list that is not met. -/
def firstUnmet (registry : Registry) (ds : List Demand) : Option Demand :=
  ds.find? fun d => ¬ d.Met registry

end Demand

/-! ## Demands of the emitted tree -/

/-- The demands of a fragment. -/
def Fragment.demands : Fragment → List Demand
  | .symbol helper => [.name helper]
  | _ => []

/-- The demands of a visit; those of a compound are those of its fragments in place. -/
def Visit.demands : Visit → List Demand
  | .element name planned => [.plan name planned]
  | .tag (.symbol helper) => [.name helper]
  | .compound parts => (fragmentsOf parts).flatMap Fragment.demands
  | _ => []

/-- Inside a compound a fragment demands what it would outside. -/
theorem demands_fragments (fragments : List Fragment) :
    (fragments.map Fragment.visit).flatMap Visit.demands
      = fragments.flatMap Fragment.demands := by
  rw [List.flatMap_map]
  refine List.flatMap_congr ?_
  intro fragment _
  cases fragment <;> rfl

end Vdom.Emit

namespace Vdom

/-- The demands of a template: its bound helpers, then the emitted tree in pre-order. -/
def Root.demands (root : Root) : List Emit.Demand :=
  (Emit.boundHelpers root).map .name ++ root.visits.flatMap Emit.Visit.demands

end Vdom

namespace Vdom.Emit

open Writer (plain fault chain enclosed sequence)

/-! ## Answers -/

/-- A result that agrees with demands: success if all are met, else the first fault. -/
def Answers {α : Type} (registry : Registry) (ds : List Demand) (result : Except Fault α) : Prop :=
  match Demand.firstUnmet registry ds with
  | none => ∃ a, result = .ok a
  | some d => result = .error d.fault

variable {registry : Registry}

theorem answers_ok {α : Type} (a : α) : Answers registry [] (.ok a) := ⟨a, rfl⟩

/-- Going on after a result answers the later demands if the first are met. -/
theorem Answers.bind {α β : Type} {ds es : List Demand} {result : Except Fault α}
    {next : α → Except Fault β} (h : Answers registry ds result)
    (hnext : ∀ a, result = .ok a → Answers registry es (next a)) :
    Answers registry (ds ++ es) (result >>= next) := by
  rw [Answers, Demand.firstUnmet] at h
  rw [Answers, Demand.firstUnmet, List.find?_append]
  -- An unmet demand among the first stops the run there; otherwise the later ones decide.
  cases hd : ds.find? fun d => ¬ d.Met registry with
  | some d =>
      rw [hd] at h
      rw [h]
      rfl
  | none =>
      rw [hd] at h
      obtain ⟨a, ha⟩ := h
      have rest := hnext a ha
      rw [ha]
      exact rest

/-- A success says that every demand is met. -/
theorem Answers.ok_iff {α : Type} {ds : List Demand} {result : Except Fault α}
    (h : Answers registry ds result) :
    (∃ a, result = .ok a) ↔ ∀ d ∈ ds, d.Met registry := by
  rw [Answers, Demand.firstUnmet] at h
  -- There is a first demand that is not met, or all of them are.
  cases hd : ds.find? fun d => ¬ d.Met registry with
  | some d =>
      rw [hd] at h
      have unmet : ¬ d.Met registry := by simpa using List.find?_some hd
      constructor
      · rintro ⟨a, ha⟩
        rw [h] at ha
        exact nomatch ha
      · intro met
        exact absurd (met d (List.mem_of_find?_eq_some hd)) unmet
  | none =>
      rw [hd] at h
      constructor
      · intro _ d hmem
        simpa using List.find?_eq_none.mp hd d hmem
      · intro _
        exact h

/-- A fault is that of a demand that is not met, with all earlier ones met. -/
theorem Answers.error_iff {α : Type} {ds : List Demand} {result : Except Fault α} {f : Fault}
    (h : Answers registry ds result) :
    result = .error f ↔ ∃ earlier d later, ds = earlier ++ d :: later
      ∧ (∀ e ∈ earlier, e.Met registry) ∧ ¬ d.Met registry ∧ f = d.fault := by
  rw [Answers] at h
  constructor
  · rintro rfl
    -- The fault is that of the first unmet demand, which splits the list.
    cases hd : Demand.firstUnmet registry ds with
    | none =>
        rw [hd] at h
        obtain ⟨a, ha⟩ := h
        exact nomatch ha
    | some d =>
        rw [hd] at h
        rw [Demand.firstUnmet, List.find?_eq_some_iff_append] at hd
        obtain ⟨unmet, earlier, later, split, met⟩ := hd
        exact ⟨earlier, d, later, split, by simpa using met, by simpa using unmet,
          Except.error.inj h⟩
  · rintro ⟨earlier, d, later, split, met, unmet, rfl⟩
    have first : Demand.firstUnmet registry ds = some d := by
      rw [Demand.firstUnmet, List.find?_eq_some_iff_append]
      exact ⟨by simpa using unmet, earlier, later, split, by simpa using met⟩
    rw [first] at h
    exact h

/-- A demand that is met may be left out. -/
theorem Answers.of_cons {α : Type} {d : Demand} {ds : List Demand} {result : Except Fault α}
    (h : Answers registry (d :: ds) result) (met : d.Met registry) :
    Answers registry ds result := by
  have skip : Demand.firstUnmet registry (d :: ds) = Demand.firstUnmet registry ds := by
    rw [Demand.firstUnmet, List.find?_cons_of_neg (by simpa using met)]
    rfl
  rw [Answers, skip] at h
  exact h

/-- What is done with a success does not matter. -/
theorem Answers.after {α β : Type} {ds : List Demand} {result : Except Fault α}
    (h : Answers registry ds result) (f : α → β) :
    Answers registry ds (result >>= fun a => .ok (f a)) := by
  have next := h.bind fun a _ => answers_ok (f a)
  rw [List.append_nil] at next
  exact next

theorem Answers.map {α β : Type} {ds : List Demand} {result : Except Fault α}
    (h : Answers registry ds result) (f : α → β) : Answers registry ds (result.map f) := by
  have after := h.after f
  cases result with
  | error fault => exact after
  | ok a => exact after

/-- A chain answers for the demands of both writers, those of the first in front. -/
theorem Answers.chain {ds es : List Demand} {w x : Writer}
    (hw : Answers registry ds (w registry)) (hx : Answers registry es (x registry)) :
    Answers registry (ds ++ es) (chain w x registry) :=
  hw.bind fun ps _ => hx.after fun qs => ps ++ qs

/-- To look up a name is to demand it. -/
theorem answers_resolve (helper : Helper) :
    Answers registry [.name helper] (registry.resolve helper) := by
  rw [Answers, Demand.firstUnmet, List.find?_singleton, Registry.resolve]
  cases hname : registry.name? helper with
  | some name =>
      have met : Demand.Met registry (.name helper) := by
        rw [Demand.Met, Registry.Named, hname]
        rfl
      rw [if_neg (by simpa using met)]
      exact ⟨name, rfl⟩
  | none =>
      have unmet : ¬ Demand.Met registry (.name helper) := by
        rw [Demand.Met, Registry.Named, hname]
        exact Bool.false_ne_true
      rw [if_pos (by simpa using unmet)]
      rfl

/-- Resolving helpers in order answers a demand for the name of each. -/
theorem answers_mapM_resolve (helpers : List Helper) :
    Answers registry (helpers.map .name) (helpers.mapM registry.resolve) := by
  induction helpers with
  | nil => exact answers_ok []
  | cons helper rest ih =>
      rw [List.mapM_cons]
      exact (answers_resolve helper).bind fun name _ => ih.after fun names => name :: names

theorem answers_symbol (helper : Helper) :
    Answers registry [.name helper] (symbolPieces registry helper) :=
  (answers_resolve helper).map _

/-- **WRITERS ANSWER THEIR DEMANDS**: along the rules of layout, a writer succeeds if what its
    visits demand is there, and else reports what is missing first. -/
theorem Layout.answers {vs : List Visit} {w : Writer} (h : Layout vs w) :
    Answers registry (vs.flatMap Visit.demands) (w registry) := by
  induction h with
  | nothing => exact answers_ok []
  | separator text _ => exact answers_ok _
  | chain _ _ ihw ihx =>
      rw [List.flatMap_append]
      exact ihw.chain ihx
  | bracketed _ ih => exact ih.map _
  | wrapper _ ih => exact ih.map _
  | missing tag => rfl
  | element tag _ ih => exact ih
  | text content span => exact answers_ok _
  | atom a => exact answers_ok _
  | key a =>
      show Answers registry [] (keyPieces registry (.atom a))
      rw [keyPieces]
      split
      · exact answers_ok _
      · exact answers_ok _
  | tag t =>
      cases t with
      | name tag => exact answers_ok _
      | dynamic code => exact answers_ok _
      | symbol helper => exact answers_symbol helper
  | raw code => exact answers_ok _
  -- A compound demands what its fragments do, though it is one visit.
  | compound parts _ ih =>
      rw [demands_fragments] at ih
      rw [List.flatMap_singleton]
      exact ih
  | call c shape _ ih =>
      rw [shape]
      exact ih.map _
  | noProperties span => exact answers_ok _
  | object properties span shape _ ih =>
      rw [shape]
      exact ih.map _
  | array items span shape _ ih =>
      rw [shape]
      exact ih.map _

/-! ## Render functions -/

/-- What is returned answers the demands of the emitted tree, once the fragment has a name. -/
theorem answers_returned (root : Root)
    (named : 1 < root.children.length → registry.Named Helper.fragment) :
    Answers registry (root.visits.flatMap Visit.demands) (returned registry root.children) := by
  have answers : Answers registry ((visitsReturned root.children).flatMap Visit.demands)
      (returned registry root.children) := (layout_returned root.children).answers
  obtain ⟨children, helpers, source, span⟩ := root
  match children with
  | [] => exact answers
  | [child] =>
      have alone : visitsAll [child] = child.visits := by
        rw [visitsAll, visitsAll, List.append_nil]
      show Answers registry ((visitsAll [child]).flatMap Visit.demands) _
      rw [alone]
      exact answers
  | first :: second :: rest =>
      -- The tag of the wrapper comes first, and its name was bound before.
      exact answers.of_cons (named (by simp))

/-- **FIRST FAULT**: writing a render function answers the demands of its template. -/
theorem answers_generate (options : Options) (root : Root) :
    Answers registry root.demands (generate registry options root) := by
  have bindings : Answers registry ((boundHelpers root).map .name)
      ((boundHelpers root).mapM registry.resolve) := answers_mapM_resolve (boundHelpers root)
  rw [generate_eq]
  refine bindings.bind fun found hfound => ?_
  have named : 1 < root.children.length → registry.Named Helper.fragment := by
    intro several
    exact bindings.ok_iff.mp ⟨found, hfound⟩ _
      (List.mem_map_of_mem (fragment_mem_boundHelpers several))
  exact (answers_returned root named).after fun body =>
    ((Buffer.empty options).addAll
      (framed options (boundHelpers root) (bound found) body)).result

/-- **SUCCESS EXACTLY WHEN ALL IS THERE, THE FIRST FAULT OTHERWISE**. After any history of the
    registry, code is written if and only if every demand of the template is met; what is
    reported otherwise is the first demand that is not, in its own words. The name of the
    fragment is always there, the indentation is always balanced, and no counter of the buffers
    passed on the way leaves a word of 32 bits while the code has at most `2^32 - 2` bytes. -/
theorem generate_iff_demands (history : List Registry.Action) (options : Options) (root : Root) :
    ((∃ g, generate (Registry.run history) options root = .ok g)
      ↔ ∀ d ∈ root.demands, d.Met (Registry.run history))
    ∧ (∀ f, generate (Registry.run history) options root = .error f
      ↔ ∃ earlier d later, root.demands = earlier ++ d :: later
        ∧ (∀ e ∈ earlier, e.Met (Registry.run history)) ∧ ¬ d.Met (Registry.run history)
        ∧ f = d.fault)
    ∧ (∀ d : Demand, d.fault.message = d.complaint)
    ∧ (Demand.name Helper.fragment).Met (Registry.run history)
    ∧ generate (Registry.run history) options root ≠ .error .unindented
    ∧ generate (Registry.run history) options root ≠ .error .unbalanced
    ∧ ∀ g, generate (Registry.run history) options root = .ok g →
      g.code.utf8ByteSize ≤ UInt32.size - 2 →
      ∃ ps, g = ((Buffer.empty options).addAll ps).result
        ∧ ∀ qs, qs <+: ps → ((Buffer.empty options).addAll qs).cursor.Fits := by
  have answers : Answers (Registry.run history) root.demands
      (generate (Registry.run history) options root) := answers_generate options root
  -- Every fault is that of a demand, and the two faults of a buffer are none of these.
  have never : ∀ f, generate (Registry.run history) options root = .error f →
      ∃ d : Demand, f = d.fault := by
    intro f hf
    obtain ⟨_, d, _, _, _, _, hd⟩ := answers.error_iff.mp hf
    exact ⟨d, hd⟩
  refine ⟨answers.ok_iff, fun f => answers.error_iff, Demand.message_fault,
    Registry.named_run (by decide) history, ?_, ?_, ?_⟩
  · intro h
    obtain ⟨d, hd⟩ := never _ h
    cases d <;> exact nomatch hd
  · intro h
    obtain ⟨d, hd⟩ := never _ h
    cases d <;> exact nomatch hd
  · intro g hg short
    obtain ⟨found, body, -, -, rfl⟩ := generate_ok hg
    exact ⟨_, rfl, fun qs before => Buffer.fits_on_the_way before short⟩

end Vdom.Emit
