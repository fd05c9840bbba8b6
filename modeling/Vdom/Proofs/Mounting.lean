import Mathlib.Data.List.Chain
import Vdom.Node.Scene
import Vdom.Proofs.Cloning
/-!
# Mounting — renders leave alone what is mounted

A renderer takes one child after another, normalises it, and writes the bindings of the node that
it gets.

* **`normalize_normalized`** — that node was not mounted: it is the child itself, which was not,
  or its record is new. No record changes while a child is normalised.
* **`get_mount_of_bound`** — so a step leaves the bindings of what is mounted as they are, and
  what is mounted stays mounted (`bound_mount`).
* **`mounted_undisturbed`** — a run of any length therefore never writes a record twice, and none
  is mounted twice.
-/

namespace Vdom

variable {η : Type}

/-! ## Bound records -/

namespace Store

/-- The record of a node that is mounted. -/
def Bound (s : Store η) (cell : Nat) : Prop := (s.get cell).element.isSome = true

instance (s : Store η) (cell : Nat) : Decidable (s.Bound cell) :=
  inferInstanceAs (Decidable ((s.get cell).element.isSome = true))

theorem Bound.of_get_eq {s t : Store η} {cell : Nat} (bound : s.Bound cell)
    (same : t.get cell = s.get cell) : t.Bound cell := by
  rw [Bound, same]
  exact bound

/-- Only a cell of the store can be bound. -/
theorem Bound.lt_size {s : Store η} {cell : Nat} (bound : s.Bound cell) : cell < s.size := by
  by_contra beyond
  have absent : s.get cell = .empty := by
    rw [get, Array.getElem?_eq_none (Nat.le_of_not_lt beyond), Option.getD_none]
  rw [Bound, absent] at bound
  exact Bool.false_ne_true bound

/-- Whatever is mounted in the first store is mounted in the second. -/
def Keeps (s t : Store η) : Prop := ∀ cell, s.Bound cell → t.Bound cell

/-- How often a record is mounted in the course of some stores. -/
def rises (cell : Nat) : Store η → List (Store η) → Nat
  | _, [] => 0
  | s, t :: ts => (if ¬ s.Bound cell ∧ t.Bound cell then 1 else 0) + rises cell t ts

/-- A record that is mounted, and stays so, is not mounted again. -/
theorem rises_of_bound {cell : Nat} {s : Store η} {ts : List (Store η)}
    (kept : List.IsChain Keeps (s :: ts)) (bound : s.Bound cell) : rises cell s ts = 0 := by
  induction ts generalizing s with
  | nil => rfl
  | cons t ts ih =>
      obtain ⟨first, rest⟩ := List.isChain_cons_cons.mp kept
      rw [rises, if_neg fun rise => rise.1 bound, ih rest (first cell bound)]

/-- What stays mounted is mounted at most once. -/
theorem rises_le_one {cell : Nat} {s : Store η} {ts : List (Store η)}
    (kept : List.IsChain Keeps (s :: ts)) : rises cell s ts ≤ 1 := by
  induction ts generalizing s with
  | nil => exact Nat.zero_le 1
  | cons t ts ih =>
      obtain ⟨-, rest⟩ := List.isChain_cons_cons.mp kept
      rw [rises]
      split
      next rise => rw [rises_of_bound rest rise.2]
      next => rw [Nat.zero_add]; exact ih rest

end Store

/-! ## Normalising -/

namespace Scene

/-- What normalising a child yields: a node and the scene after it. -/
structure Normalized (s : Scene η) (child : Child) (n : Node) (t : Scene η) : Prop where
  /-- No record is changed. -/
  keeps : ∀ cell < s.store.size, t.store.get cell = s.store.get cell
  there : n.cell < t.store.size
  unbound : ¬ s.store.Bound n.cell
  /-- If it is mounted now, it is a new clone of a mounted node. -/
  clone : t.store.Bound n.cell → s.store.size ≤ n.cell ∧ ∃ model, child = .node model
    ∧ s.store.Bound model.cell ∧ t.store.get n.cell = s.store.get model.cell

/-- A node made now is not mounted. -/
theorem normalized_create (s : Scene η) (child : Child) (kind : Kind) (offer : Offer Child) :
    Normalized s child (s.create kind none offer).1 (s.create kind none offer).2 := by
  have store : (s.create kind none offer).2.store = s.store.extend [.empty] :=
    congrArg Prod.snd (s.store.allocate_eq .empty)
  have cell : (s.create kind none offer).1.cell = s.store.size := rfl
  -- The new record is behind all others and empty, so nothing of what was there is touched or
  -- mounted.
  constructor
  · intro old hold
    rw [store]
    exact Store.get_extend _ hold
  · rw [store, cell, Store.size_extend]
    exact Nat.lt_succ_self _
  · rw [cell]
    intro bound
    exact Nat.lt_irrefl _ bound.lt_size
  · intro bound
    rw [Store.Bound, store, cell, Store.get_extend_size] at bound
    exact absurd bound Bool.false_ne_true

/-- A clone has a record of its own, with the bindings of its model. -/
theorem normalized_clone {s : Scene η} {n : Node} (within : ∀ cell ∈ n.cells, cell < s.store.size)
    (bound : s.store.Bound n.cell) :
    Normalized s (.node n) (s.clone n).1 (s.clone n).2 := by
  obtain ⟨cell, head, children⟩ := n
  have inner : ∀ c ∈ children.cells, c < s.store.size :=
    fun c hc => within c (List.mem_append_left _ hc)
  obtain ⟨-, below⟩ := copies_children children s.store inner
  -- The record of the root comes after those of the children.
  have new : (s.clone (.mk cell head children)).1.cell = (children.clone s.store).2.size := rfl
  have model : (children.clone s.store).2.get cell = s.store.get cell := by
    rw [below]
    exact Store.get_extend _ bound.lt_size
  have store : (s.clone (.mk cell head children)).2.store
      = (children.clone s.store).2.extend [s.store.get cell] := by
    rw [← model]
    exact congrArg Prod.snd (Store.allocate_eq _ _)
  have grows : s.store.size ≤ (children.clone s.store).2.size := by
    rw [below, Store.size_extend]
    exact Nat.le_add_right _ _
  constructor
  · intro old hold
    rw [store, Store.get_extend _ (Nat.lt_of_lt_of_le hold grows), below]
    exact Store.get_extend _ hold
  · rw [store, new, Store.size_extend]
    exact Nat.lt_succ_self _
  · rw [new]
    intro already
    exact absurd already.lt_size (Nat.not_lt.mpr grows)
  · intro _
    refine ⟨new ▸ grows, _, rfl, bound, ?_⟩
    rw [store, new]
    exact Store.get_extend_size _ _

/-- A node that is not mounted is taken as it is. -/
theorem normalized_self {s : Scene η} {n : Node} (there : n.cell < s.store.size)
    (unbound : ¬ s.store.Bound n.cell) : Normalized s (.node n) n s := by
  constructor
  · intro _ _
    rfl
  · exact there
  · exact unbound
  · intro bound
    exact absurd bound unbound

/-- **NORMALISED**: a text or an array gets a new record, a mounted node that of its clone, and any
    other node keeps its own. -/
theorem normalize_normalized (s : Scene η) {child : Child}
    (within : ∀ cell ∈ child.cells, cell < s.store.size) :
    Normalized s child (s.normalize child).1 (s.normalize child).2 := by
  cases child with
  | text t => exact normalized_create s _ .text (.text t)
  | array entries => exact normalized_create s _ .fragment (.array entries)
  | node n =>
      show Normalized s (.node n) (s.cloneIfMounted n).1 (s.cloneIfMounted n).2
      by_cases bound : s.store.isMounted n = true
      · rw [cloneIfMounted_of_mounted bound]
        exact normalized_clone within bound
      · rw [cloneIfMounted_of_not_mounted bound]
        exact normalized_self (within n.cell n.cell_mem_cells) bound

end Scene

/-! ## Steps -/

/-- A step of a renderer: the child that it takes, and what it writes on the node. -/
structure Mount (η : Type) where
  child : Child
  element : η
  anchor : Option η
  component : Option Instance

namespace Scene

/-- The scene after a step. -/
def mount (s : Scene η) (m : Mount η) : Scene η :=
  let (n, s) := s.normalize m.child
  s.bind n ⟨some m.element, m.anchor, m.component⟩

/-- The record that a step writes. -/
def target (s : Scene η) (m : Mount η) : Nat := (s.normalize m.child).1.cell

section Step

variable {s : Scene η} {m : Mount η} (within : ∀ cell ∈ m.child.cells, cell < s.store.size)

/-- A step writes one record, and the others are as normalising left them. -/
theorem get_mount_of_ne {cell : Nat} (apart : cell ≠ s.target m) :
    (s.mount m).store.get cell = (s.normalize m.child).2.store.get cell :=
  Store.get_set_of_ne _ _ apart.symm

include within

/-- What is mounted keeps its bindings while a child is normalised. -/
theorem get_normalize_of_bound {cell : Nat} (bound : s.store.Bound cell) :
    (s.normalize m.child).2.store.get cell = s.store.get cell :=
  (normalize_normalized s within).keeps cell bound.lt_size

/-- The record that a step writes was not mounted before. -/
theorem target_unbound : ¬ s.store.Bound (s.target m) :=
  (normalize_normalized s within).unbound

/-- The record that a step writes holds what the step says. -/
theorem get_mount_target :
    (s.mount m).store.get (s.target m) = ⟨some m.element, m.anchor, m.component⟩ :=
  Store.get_set_self (normalize_normalized s within).there _

/-- **UNDISTURBED**: a step leaves the bindings of what is mounted as they are. -/
theorem get_mount_of_bound {cell : Nat} (bound : s.store.Bound cell) :
    (s.mount m).store.get cell = s.store.get cell := by
  have apart : cell ≠ s.target m := by
    rintro rfl
    exact target_unbound within bound
  rw [get_mount_of_ne apart]
  exact get_normalize_of_bound within bound

theorem bound_mount {cell : Nat} (bound : s.store.Bound cell) : (s.mount m).store.Bound cell :=
  bound.of_get_eq (get_mount_of_bound within bound)

theorem target_bound : (s.mount m).store.Bound (s.target m) := by
  rw [Store.Bound, get_mount_target within]
  rfl

end Step

/-! ## Runs -/

/-- The scene after a run. -/
def mountAll (s : Scene η) (ms : List (Mount η)) : Scene η := ms.foldl mount s

/-- Each child has all its records in the store when its turn comes. -/
def Present : Scene η → List (Mount η) → Prop
  | _, [] => True
  | s, m :: ms => (∀ cell ∈ m.child.cells, cell < s.store.size) ∧ Present (s.mount m) ms

/-- The records that a run writes. -/
def targets : Scene η → List (Mount η) → List Nat
  | _, [] => []
  | s, m :: ms => s.target m :: targets (s.mount m) ms

/-- The stores of a run: two for each step, before and after it writes. -/
def timeline : Scene η → List (Mount η) → List (Store η)
  | _, [] => []
  | s, m :: ms =>
      (s.normalize m.child).2.store :: (s.mount m).store :: timeline (s.mount m) ms

theorem Present.drop {s : Scene η} {earlier later : List (Mount η)}
    (present : s.Present (earlier ++ later)) : (s.mountAll earlier).Present later := by
  induction earlier generalizing s with
  | nil => exact present
  | cons m earlier ih => exact ih present.2

/-- A run does not write what is mounted. -/
theorem not_mem_targets {s : Scene η} {ms : List (Mount η)} (present : s.Present ms) {cell : Nat}
    (bound : s.store.Bound cell) : cell ∉ s.targets ms := by
  induction ms generalizing s with
  | nil => exact List.not_mem_nil
  | cons m ms ih =>
      intro written
      obtain rfl | later := List.mem_cons.mp written
      · exact target_unbound present.1 bound
      · exact ih present.2 (bound_mount present.1 bound) later

/-- No record is written twice in a run. -/
theorem nodup_targets {s : Scene η} {ms : List (Mount η)} (present : s.Present ms) :
    (s.targets ms).Nodup := by
  induction ms generalizing s with
  | nil => exact List.nodup_nil
  | cons m ms ih =>
      exact List.nodup_cons.mpr
        ⟨not_mem_targets present.2 (target_bound present.1), ih present.2⟩

/-- All along a run, what is mounted stays mounted. -/
theorem timeline_keeps {s : Scene η} {ms : List (Mount η)} (present : s.Present ms) :
    List.IsChain Store.Keeps (s.store :: s.timeline ms) := by
  induction ms generalizing s with
  | nil => exact List.isChain_singleton _
  | cons m ms ih =>
      have normalized : s.store.Keeps (s.normalize m.child).2.store := by
        intro cell bound
        exact bound.of_get_eq (get_normalize_of_bound present.1 bound)
      have written : (s.normalize m.child).2.store.Keeps (s.mount m).store := by
        intro cell bound
        by_cases here : cell = s.target m
        · rw [here]
          exact target_bound present.1
        · exact bound.of_get_eq (get_mount_of_ne here)
      exact ((ih present.2).cons_cons written).cons_cons normalized

/-- **UNDISTURBED**, in a run of any length. Whatever is mounted before a step has the bindings it
    had once the step's child is normalised, and at its end. Only the record of the node that the
    step took is written; it was not mounted before, or else it is a clone that the step made of
    a mounted node, with the bindings of that. No record is written by two steps, and none is
    mounted more than once. -/
theorem mounted_undisturbed {s : Scene η} {ms : List (Mount η)} (present : s.Present ms) :
    (∀ earlier m later, ms = earlier ++ m :: later →
      let before := s.mountAll earlier
      let during := (before.normalize m.child).2
      let after := before.mount m
      (∀ cell, before.store.Bound cell → during.store.get cell = before.store.get cell
        ∧ after.store.get cell = before.store.get cell)
      ∧ (∀ cell ≠ before.target m, after.store.get cell = during.store.get cell)
      ∧ after.store.get (before.target m) = ⟨some m.element, m.anchor, m.component⟩
      ∧ ¬ before.store.Bound (before.target m)
      ∧ (during.store.Bound (before.target m) → before.store.size ≤ before.target m
        ∧ ∃ model, m.child = .node model ∧ before.store.Bound model.cell
          ∧ during.store.get (before.target m) = before.store.get model.cell))
    ∧ (s.targets ms).Nodup
    ∧ ∀ cell, Store.rises cell s.store (s.timeline ms) ≤ 1 := by
  refine ⟨?_, nodup_targets present, fun cell => Store.rises_le_one (timeline_keeps present)⟩
  rintro earlier m later rfl before during after
  -- Each step is looked at where its turn comes, in the scene that the earlier ones left.
  have within : ∀ cell ∈ m.child.cells, cell < before.store.size := present.drop.1
  refine ⟨?_, ?_, get_mount_target within, target_unbound within,
    (normalize_normalized before within).clone⟩
  · intro cell bound
    exact ⟨get_normalize_of_bound within bound, get_mount_of_bound within bound⟩
  · intro cell apart
    exact get_mount_of_ne apart

/-- A list is shown again, then inside a fragment with a row, and then that row twice. -/
def rerender : List (Mount String) :=
  let list : Node := .mk 2 Node.rowHead (.array [.node (.mk 0 Node.rowHead .none), .text "and"])
  let row : Node := .mk 1 Node.rowHead .none
  [⟨.node list, "ul", none, none⟩,
    ⟨.array [.node list, .array [.node row]], "start", some "end", none⟩,
    ⟨.node row, "li", none, none⟩,
    ⟨.node row, "li", none, none⟩]

/-- The list is cloned, row and all; so is the row once it is mounted. -/
theorem rerender_undisturbed :
    let s : Scene String := ⟨Node.mountedRows, none, 2, []⟩
    s.Present rerender ∧ s.targets rerender = [4, 5, 1, 6] ∧ (s.targets rerender).Nodup
    ∧ ∀ cell, Store.rises cell s.store (s.timeline rerender) ≤ 1 := by
  intro s
  have present : s.Present rerender :=
    ⟨by decide, by decide, by decide, by decide, trivial⟩
  obtain ⟨-, nodup, rises⟩ := mounted_undisturbed present
  exact ⟨present, by decide, nodup, rises⟩

end Scene

end Vdom
