import Mathlib.Data.List.Nodup
import Vdom.Node.Scene
/-!
# Guards — who renders while guards come and go

A guard lets an instance render, and when it is dropped the turn goes back to whoever had it when
the guard was made. Guards are values, so they need not be dropped in the order that suits them.

* **`Settled`** — whoever renders has a guard. A drop keeps this exactly if the guard of the one
  that gets the turn is alive (`settled_drop_iff`).
* **`Stacked`** — each guard was made while the one before it had the turn. Dropping the latest
  keeps this (`Stacked.drop_latest`); dropping another leaves a guard behind that remembers an
  instance without one (`Stacked.orphaned`).
* **`always_settled_iff`** — so, in a run that drops all its guards, whoever renders has a guard at
  every moment exactly if the last guard made is always the first one dropped.
* **`first_dropped_first`** — two guards dropped in the order they were made in leave an instance
  rendering that has none.
-/

namespace Vdom

variable {η : Type}

/-! ## Guards that are alive -/

/-- A guard that is alive, with the instance it was made for. -/
structure Hold where
  owner : Instance
  guard : Guard

/-- A scene with the guards that are alive, the latest first. -/
structure Watched (η : Type) where
  scene : Scene η
  held : List Hold

/-- What happens to guards. -/
inductive Turn where
  | enter (i : Instance)
  /-- The guard at a place among those alive is dropped. -/
  | drop (place : Nat)

/-- The instances that guards are made for. -/
def entered : List Turn → List Instance
  | [] => []
  | .enter i :: ts => i :: entered ts
  | .drop _ :: ts => entered ts

namespace Watched

/-- The instance that renders. -/
def rendering (w : Watched η) : Option Instance := w.scene.rendering

/-- What comes of a turn; nothing, if there is no guard at the place. -/
def turn (w : Watched η) : Turn → Watched η
  | .enter i =>
    let (g, s) := w.scene.enter i
    ⟨s, ⟨i, g⟩ :: w.held⟩
  | .drop place =>
    match w.held[place]? with
    | none => w
    | some h => ⟨w.scene.leave h.guard, w.held.eraseIdx place⟩

/-- What comes of a run. -/
def turns (w : Watched η) (ts : List Turn) : Watched η := ts.foldl turn w

/-- Nothing renders, and there are no guards. -/
structure Idle (w : Watched η) : Prop where
  rendering : w.rendering = none
  held : w.held = []

/-- The owners of the guards that are alive. -/
def owners (w : Watched η) : List Instance := w.held.map Hold.owner

theorem drop_none {w : Watched η} {place : Nat} (gone : w.held[place]? = none) :
    w.turn (.drop place) = w := by
  simp only [turn, gone]

/-- A guard that is dropped gives the turn back and is gone. -/
theorem drop_some {w : Watched η} {place : Nat} {h : Hold} (found : w.held[place]? = some h) :
    w.turn (.drop place) = ⟨w.scene.leave h.guard, w.held.eraseIdx place⟩ := by
  simp only [turn, found]

/-- Something holds at every moment of a run. -/
def Always (P : Watched η → Prop) : Watched η → List Turn → Prop
  | w, [] => P w
  | w, t :: ts => P w ∧ Always P (w.turn t) ts

/-- Something holds of every drop in a run, when its turn comes. -/
def EachDrop (P : Watched η → Nat → Prop) : Watched η → List Turn → Prop
  | _, [] => True
  | w, .enter i :: ts => EachDrop P (w.turn (.enter i)) ts
  | w, .drop place :: ts => P w place ∧ EachDrop P (w.turn (.drop place)) ts

/-- What holds at every moment holds at the first, and at the last (`Always.last`). -/
theorem Always.now {P : Watched η → Prop} {w : Watched η} {ts : List Turn}
    (always : Always P w ts) : P w := by
  cases ts with
  | nil => exact always
  | cons t ts => exact always.1

theorem Always.last {P : Watched η → Prop} {w : Watched η} {ts : List Turn}
    (always : Always P w ts) : P (w.turns ts) := by
  induction ts generalizing w with
  | nil => exact always
  | cons t ts ih => exact ih always.2

/-! ## Whoever renders has a guard -/

/-- Whoever renders has a guard that is alive. -/
def Settled (w : Watched η) : Prop := ∀ i, w.rendering = some i → i ∈ w.owners

/-- Whoever gets the turn when a guard is dropped has another guard. -/
def Sheltered (w : Watched η) (place : Nat) : Prop :=
  ∀ h, w.held[place]? = some h →
    ∀ i, h.guard.previous = some i → i ∈ (w.held.eraseIdx place).map Hold.owner

/-- The guard that is dropped is the latest one. -/
def Latest (w : Watched η) (place : Nat) : Prop := place < w.held.length → place = 0

/-- Where nothing renders, nobody renders without a guard. -/
theorem Idle.settled {w : Watched η} (idle : w.Idle) : w.Settled := by
  intro i renders
  rw [idle.rendering] at renders
  exact nomatch renders

/-- Whoever enters has a guard, whatever was before. -/
theorem settled_enter (w : Watched η) (i : Instance) : (w.turn (.enter i)).Settled := by
  rintro _ ⟨⟩
  exact List.mem_cons_self

/-- Dropping a guard leaves a settled scene exactly if the turn goes to someone with another guard.
    -/
theorem settled_drop_iff {w : Watched η} (settled : w.Settled) (place : Nat) :
    (w.turn (.drop place)).Settled ↔ w.Sheltered place := by
  cases found : w.held[place]? with
  | none =>
      rw [drop_none found]
      refine iff_of_true settled fun h there => ?_
      rw [found] at there
      exact nomatch there
  | some h =>
      rw [drop_some found]
      constructor
      · intro after h' there
        obtain rfl : h = h' := Option.some.inj (found.symm.trans there)
        exact after
      · intro sheltered
        exact sheltered h found

/-- A run is settled throughout exactly if each of its drops is sheltered; entering is never to
    blame. -/
theorem always_settled_iff_sheltered {w : Watched η} (settled : w.Settled) (ts : List Turn) :
    Always Settled w ts ↔ EachDrop Sheltered w ts := by
  induction ts generalizing w with
  | nil => exact iff_of_true settled trivial
  | cons t ts ih =>
      cases t with
      | enter i =>
          rw [Always, EachDrop, ih (settled_enter w i)]
          exact and_iff_right settled
      | drop place =>
          rw [Always, EachDrop, ← settled_drop_iff settled]
          constructor
          · rintro ⟨-, rest⟩
            exact ⟨rest.now, (ih rest.now).mp rest⟩
          · rintro ⟨after, rest⟩
            exact ⟨settled, (ih after).mpr rest⟩

/-! ## Guards in a row -/

/-- Each guard was made while the owner of the one before it had the turn, which `turn` has now. -/
def Linked : Option Instance → List Hold → Prop
  | turn, [] => turn = none
  | turn, h :: rest => turn = some h.owner ∧ Linked h.guard.previous rest

/-- Guards in a row, and the latest owner renders. -/
def Stacked (w : Watched η) : Prop := Linked w.rendering w.held

/-- No guards are a row. -/
theorem Idle.stacked {w : Watched η} (idle : w.Idle) : w.Stacked := by
  rw [Stacked, idle.held]
  exact idle.rendering

/-- In a row, whoever renders owns the latest guard. -/
theorem Stacked.settled {w : Watched η} (stacked : w.Stacked) : w.Settled := by
  intro i renders
  rw [Stacked, renders] at stacked
  rw [owners]
  cases held : w.held with
  | nil =>
      rw [held] at stacked
      exact nomatch stacked
  | cons h rest =>
      rw [held] at stacked
      rw [Option.some.inj stacked.1]
      exact List.mem_cons_self

/-- A new guard goes on with the row. -/
theorem Stacked.enter {w : Watched η} (stacked : w.Stacked) (i : Instance) :
    (w.turn (.enter i)).Stacked :=
  ⟨rfl, stacked⟩

/-- Dropping the latest guard leaves a row. -/
theorem Stacked.drop_latest {w : Watched η} (stacked : w.Stacked) : (w.turn (.drop 0)).Stacked := by
  cases held : w.held with
  | nil =>
      rw [drop_none (by rw [held]; rfl)]
      exact stacked
  | cons h rest =>
      rw [Stacked, held] at stacked
      have latest : w.held[0]? = some h := by rw [held]; rfl
      rw [drop_some latest, held]
      exact stacked.2

/-- The guard that was made after another one remembers its owner, and stays when it is dropped. -/
theorem Linked.successor {turn : Option Instance} {held : List Hold} (linked : Linked turn held)
    {place : Nat} {h : Hold} (found : held[place + 1]? = some h) :
    ∃ later ∈ held.eraseIdx (place + 1), later.guard.previous = some h.owner := by
  induction held generalizing turn place with
  | nil => exact nomatch found
  | cons first rest ih =>
      cases place with
      | zero =>
          cases rest with
          | nil => exact nomatch found
          | cons second others =>
              obtain rfl : second = h := Option.some.inj found
              exact ⟨first, List.mem_cons_self, linked.2.1⟩
      | succ place =>
          obtain ⟨later, there, remembers⟩ := ih linked.2 found
          exact ⟨later, List.mem_cons_of_mem _ there, remembers⟩

/-! ## Guards left behind -/

/-- Some guard remembers the instance `i`, which has no guard. -/
structure Orphaned (w : Watched η) (i : Instance) : Prop where
  remembered : ∃ h ∈ w.held, h.guard.previous = some i
  alone : i ∉ w.owners

/-- A guard that was left behind stays so while others enter. -/
theorem Orphaned.enter {w : Watched η} {i j : Instance} (orphaned : w.Orphaned i) (other : i ≠ j) :
    (w.turn (.enter j)).Orphaned i := by
  obtain ⟨⟨h, there, remembers⟩, alone⟩ := orphaned
  refine ⟨⟨h, List.mem_cons_of_mem _ there, remembers⟩, fun owner => ?_⟩
  rcases List.mem_cons.mp owner with same | before
  · exact other same
  · exact alone before

/-- The guard stays behind until it is dropped, which gives the turn to the instance. -/
theorem Orphaned.drop {w : Watched η} {i : Instance} (orphaned : w.Orphaned i) (place : Nat) :
    (w.turn (.drop place)).Orphaned i ∨ ¬ (w.turn (.drop place)).Settled := by
  cases found : w.held[place]? with
  | none =>
      rw [drop_none found]
      exact .inl orphaned
  | some dropped =>
      obtain ⟨⟨h, there, remembers⟩, alone⟩ := orphaned
      rw [drop_some found]
      have fewer : i ∉ (w.held.eraseIdx place).map Hold.owner := fun owner =>
        alone (((List.eraseIdx_sublist w.held place).map Hold.owner).subset owner)
      -- Either this is the guard that remembers the instance, or that one is still there.
      by_cases same : dropped.guard.previous = some i
      · exact .inr fun settled => fewer (settled i same)
      · refine .inl ⟨⟨h, ?_, remembers⟩, fewer⟩
        obtain ⟨at_, here⟩ := List.mem_iff_getElem?.mp there
        refine List.mem_eraseIdx_iff_getElem?.mpr ⟨at_, ?_, here⟩
        rintro rfl
        obtain rfl : dropped = h := Option.some.inj (found.symm.trans here)
        exact same remembers

/-- So, if all guards are dropped in the end, there is a moment when it renders without one. -/
theorem Orphaned.unsettled {w : Watched η} {i : Instance} (orphaned : w.Orphaned i)
    {ts : List Turn} (never : i ∉ entered ts) (dropped : (w.turns ts).held = []) :
    ¬ Always Settled w ts := by
  induction ts generalizing w with
  -- At the end no guard is left, so none can have stayed behind.
  | nil =>
      obtain ⟨h, there, -⟩ := orphaned.remembered
      rw [show w.held = [] from dropped] at there
      exact nomatch there
  | cons t ts ih =>
      rintro ⟨-, rest⟩
      cases t with
      | enter j =>
          have other : i ≠ j := fun same => never (same ▸ List.mem_cons_self)
          exact ih (orphaned.enter other) (fun later => never (List.mem_cons_of_mem _ later))
            dropped rest
      | drop place =>
          rcases orphaned.drop place with still | unsettled
          · exact ih still never dropped rest
          · exact unsettled rest.now

/-! ## Runs -/

/-- Each guard has an owner of its own, those to be made included. -/
def Distinct (w : Watched η) (ts : List Turn) : Prop := (w.owners ++ entered ts).Nodup

/-- An owner to come is an owner from then on. -/
theorem Distinct.enter {w : Watched η} {i : Instance} {ts : List Turn}
    (distinct : w.Distinct (.enter i :: ts)) : (w.turn (.enter i)).Distinct ts :=
  List.nodup_middle.mp distinct

/-- Dropping guards gives nobody a second one. -/
theorem Distinct.drop {w : Watched η} {place : Nat} {ts : List Turn}
    (distinct : w.Distinct (.drop place :: ts)) : (w.turn (.drop place)).Distinct ts := by
  cases found : w.held[place]? with
  | none =>
      rw [drop_none found]
      exact distinct
  | some h =>
      rw [drop_some found]
      have fewer := (List.eraseIdx_sublist w.held place).map Hold.owner
      exact List.Nodup.sublist (fewer.append_right _) distinct

/-- Dropping a guard other than the latest leaves one behind that remembers its owner. -/
theorem Stacked.orphaned {w : Watched η} (stacked : w.Stacked) {place : Nat} {h : Hold}
    (found : w.held[place + 1]? = some h) {ts : List Turn}
    (distinct : w.Distinct (.drop (place + 1) :: ts)) :
    (w.turn (.drop (place + 1))).Orphaned h.owner ∧ h.owner ∉ entered ts := by
  obtain ⟨own, -, apart⟩ := List.nodup_append.mp distinct
  have owner : h.owner ∈ w.owners := List.mem_map_of_mem (List.mem_of_getElem? found)
  rw [drop_some found]
  refine ⟨⟨Linked.successor stacked found, fun again => ?_⟩, fun later => apart _ owner _ later rfl⟩
  -- Another guard of the same owner would have another place.
  obtain ⟨other, there, same⟩ := List.mem_map.mp again
  obtain ⟨at_, elsewhere, here⟩ := List.mem_eraseIdx_iff_getElem?.mp there
  have first : w.owners[at_]? = some h.owner := by
    rw [owners, List.getElem?_map, here, ← same]
    rfl
  have second : w.owners[place + 1]? = some h.owner := by
    rw [owners, List.getElem?_map, found]
    rfl
  obtain ⟨inside, -⟩ := List.getElem?_eq_some_iff.mp first
  exact elsewhere ((List.getElem?_inj inside own).mp (first.trans second.symm))

/-- In a run that drops all guards, whoever renders has one at every moment exactly if the last
    one made is always the first one dropped. -/
theorem Stacked.settled_iff_latest {w : Watched η} (stacked : w.Stacked) {ts : List Turn}
    (distinct : w.Distinct ts) (dropped : (w.turns ts).held = []) :
    Always Settled w ts ↔ EachDrop Latest w ts := by
  induction ts generalizing w with
  | nil => exact iff_of_true stacked.settled trivial
  | cons t ts ih =>
      rw [Always, and_iff_right stacked.settled]
      cases t with
      | enter i => exact ih (stacked.enter i) distinct.enter dropped
      | drop place =>
          rw [EachDrop]
          cases place with
          | zero =>
              have latest : w.Latest 0 := fun _ => rfl
              rw [and_iff_right latest]
              exact ih stacked.drop_latest distinct.drop dropped
          -- A guard in the middle may be missing, or it is left behind as an orphan, which no later
          -- turn makes good.
          | succ place =>
              cases found : w.held[place + 1]? with
              | none =>
                  have beyond := List.getElem?_eq_none_iff.mp found
                  have latest : w.Latest (place + 1) :=
                    fun inside => absurd inside (Nat.not_lt.mpr beyond)
                  rw [and_iff_right latest]
                  have same := distinct.drop
                  rw [turns, List.foldl_cons, drop_none found] at dropped
                  rw [drop_none found] at same ⊢
                  exact ih stacked same dropped
              | some h =>
                  obtain ⟨orphaned, never⟩ := stacked.orphaned found distinct
                  refine iff_of_false (orphaned.unsettled never dropped) ?_
                  rintro ⟨latest, -⟩
                  obtain ⟨inside, -⟩ := List.getElem?_eq_some_iff.mp found
                  exact Nat.succ_ne_zero place (latest inside)

/-- **WHO RENDERS HAS A GUARD**. In a run of guards, each for an instance of its own, from a scene
    where nothing renders: whoever renders has a guard at every moment exactly if, at every drop,
    the one who had the turn when the guard was made still has a guard. If the run drops all its
    guards, this is so exactly if the last guard made is always the first one dropped; and nothing
    renders then in the end. -/
theorem always_settled_iff {w : Watched η} (idle : w.Idle) {ts : List Turn}
    (distinct : (entered ts).Nodup) :
    (Always Settled w ts ↔ EachDrop Sheltered w ts)
    ∧ ((w.turns ts).held = [] →
      (Always Settled w ts ↔ EachDrop Latest w ts)
      ∧ (Always Settled w ts → (w.turns ts).rendering = none)) := by
  refine ⟨always_settled_iff_sheltered idle.settled ts, fun dropped => ⟨?_, fun always => ?_⟩⟩
  · have apart : w.Distinct ts := by
      rw [Distinct, owners, idle.held]
      exact distinct
    exact idle.stacked.settled_iff_latest apart dropped
  -- Whoever rendered at the end would need a guard, and all are dropped.
  · cases renders : (w.turns ts).rendering with
    | none => rfl
    | some i =>
        have owner := always.last i renders
        rw [owners, dropped] at owner
        exact nomatch owner

/-- The instance of a component. -/
def parent : Instance := ⟨0, .text "parent"⟩

/-- The instance of a component inside it. -/
def child : Instance := ⟨1, .text "child"⟩

/-- No guards have been made. -/
def unwatched : Watched Unit := ⟨.initial, []⟩

/-- A child that renders inside its parent: the guards are dropped last in, first out. -/
theorem nested_settled :
    unwatched.Idle ∧ (entered [.enter parent, .enter child, .drop 0, .drop 0]).Nodup
    ∧ (unwatched.turns [.enter parent, .enter child, .drop 0, .drop 0]).held = []
    ∧ Always Settled unwatched [.enter parent, .enter child, .drop 0, .drop 0]
    ∧ (unwatched.turns [.enter parent, .enter child, .drop 0, .drop 0]).rendering = none := by
  have idle : unwatched.Idle := ⟨rfl, rfl⟩
  have distinct : (entered [.enter parent, .enter child, .drop 0, .drop 0]).Nodup :=
    List.nodup_cons.mpr ⟨by simp [entered, parent, child], List.nodup_singleton child⟩
  obtain ⟨-, complete⟩ := always_settled_iff idle distinct
  obtain ⟨exactly, ended⟩ := complete rfl
  have settled := exactly.mpr ⟨fun _ => rfl, fun _ => rfl, trivial⟩
  exact ⟨idle, distinct, rfl, settled, ended settled⟩

/-- Two guards that are dropped in the order they were made in: the parent renders in the end,
    though its guard was the first to go. -/
theorem first_dropped_first :
    unwatched.Idle ∧ (entered [.enter parent, .enter child, .drop 1, .drop 0]).Nodup
    ∧ (unwatched.turns [.enter parent, .enter child, .drop 1, .drop 0]).held = []
    ∧ (unwatched.turns [.enter parent, .enter child, .drop 1, .drop 0]).rendering = some parent
    ∧ ¬ Always Settled unwatched [.enter parent, .enter child, .drop 1, .drop 0] := by
  have distinct : (entered [.enter parent, .enter child, .drop 1, .drop 0]).Nodup :=
    List.nodup_cons.mpr ⟨by simp [entered, parent, child], List.nodup_singleton child⟩
  refine ⟨⟨rfl, rfl⟩, distinct, rfl, rfl, fun always => ?_⟩
  exact nomatch always.last parent rfl

end Watched

end Vdom
