import Mathlib.Data.List.Nodup
import Vdom.Proofs.Registry
/-!
# Minting — helpers from a counter that comes round

Helpers are minted from a counter that starts behind the built-in ones and has 32 bits.

* **`minted_eq`** — the helpers that a history mints are consecutive numbers, modulo `2^32`.
* **`given_known`** — if names are given only to helpers that are known, so that no number is named
  before it is minted, then the names of a registry are those of built-in and minted helpers.
* **`fresh_iff`** — so the helpers are new at every step of a history, of any length, exactly if
  no more of them are minted than there are numbers behind the built-in ones.
* **`exhausted_counter`** — the next one is a built-in helper.
-/

namespace Vdom.Registry

/-! ## Minted helpers -/

/-- The helper that a step mints, if it mints one. -/
def Action.mints (r : Registry) : Action → List Helper
  | .mint => [r.mint.1]
  | .register _ => []

/-- The helpers that a history mints, first to last, from a registry on. -/
def minted (r : Registry) : List Action → List Helper
  | [] => []
  | a :: rest => a.mints r ++ minted (r.after a) rest

/-- What a history mints, its parts mint one after the other. -/
theorem minted_append (r : Registry) (earlier later : List Action) :
    minted r (earlier ++ later) = minted r earlier ++ minted (earlier.foldl after r) later := by
  induction earlier generalizing r with
  | nil => rfl
  | cons a earlier ih =>
      rw [List.cons_append, minted, minted, ih, List.append_assoc]
      rfl

/-- Naming helpers does not move the counter. -/
theorem next_assignAll (r : Registry) (entries : List (Helper × String)) :
    (r.assignAll entries).next = r.next := by
  induction entries generalizing r with
  | nil => rfl
  | cons entry rest ih => exact ih (r.assign entry.1 entry.2)

/-- A helper that a counter at `next` mints after `k` others. -/
def numbered (next : UInt32) (k : Nat) : Helper := ⟨next + UInt32.ofNat k⟩

/-- To mint one helper more is to start from the next number. -/
theorem numbered_succ (next : UInt32) (k : Nat) :
    numbered next (k + 1) = numbered (next + 1) k := by
  refine congrArg Helper.mk ?_
  rw [UInt32.ofNat_add, UInt32.add_assoc, UInt32.add_comm 1]
  rfl

/-- **CONSECUTIVE**: naming helpers does not move the counter. -/
theorem minted_eq (r : Registry) (history : List Action) :
    minted r history = (List.range (minted r history).length).map (numbered r.next) := by
  induction history generalizing r with
  | nil => rfl
  | cons a rest ih =>
      cases a with
      | register entries =>
          have same : (r.after (.register entries)).next = r.next := next_assignAll r entries
          rw [minted, Action.mints, List.nil_append, ← same]
          exact ih _
      | mint =>
          -- The helper minted first has the number of the counter, and the others start one further
          -- on.
          have first : r.mint.1 = numbered r.next 0 :=
            congrArg Helper.mk (UInt32.add_zero r.next).symm
          have others : numbered (r.after .mint).next = numbered r.next ∘ Nat.succ := by
            funext k
            exact (numbered_succ r.next k).symm
          rw [minted, Action.mints, List.singleton_append, List.length_cons,
            List.range_succ_eq_map, List.map_cons, List.map_map, ← others, ← ih, first]

/-! ## Names -/

/-- Names are given only to helpers that are built in or were minted before. -/
def Proper (history : List Action) : Prop :=
  ∀ earlier entries later, history = earlier ++ .register entries :: later →
    ∀ entry ∈ entries, entry.1.isBuiltIn = true ∨ entry.1 ∈ minted initial earlier

theorem Proper.before {earlier later : List Action} (proper : Proper (earlier ++ later)) :
    Proper earlier := by
  intro first entries others split
  refine proper first entries (others ++ later) ?_
  rw [split, List.append_assoc]
  rfl

theorem Proper.nil : Proper [] := by
  intro earlier entries later split
  exact absurd split (by simp)

/-- A history goes on with a step that names known helpers. -/
theorem Proper.concat {earlier : List Action} (proper : Proper earlier) {a : Action}
    (known : ∀ entry ∈ a.given, entry.1.isBuiltIn = true ∨ entry.1 ∈ minted initial earlier) :
    Proper (earlier ++ [a]) := by
  intro first entries later split
  rcases List.eq_nil_or_concat later with rfl | ⟨between, last, rfl⟩
  · obtain ⟨rfl, same⟩ := List.append_inj' split rfl
    cases same
    exact known
  · rw [List.concat_eq_append, ← List.cons_append, ← List.append_assoc] at split
    obtain ⟨before, -⟩ := List.append_inj' split rfl
    exact proper first entries between before

/-- Every helper that is given a name is known by then. -/
theorem given_known {history : List Action} (proper : Proper history) :
    ∀ entry ∈ given history, entry.1.isBuiltIn = true ∨ entry.1 ∈ minted initial history := by
  intro entry there
  obtain ⟨a, step, gives⟩ := List.mem_flatMap.mp there
  obtain ⟨earlier, later, rfl⟩ := List.append_of_mem step
  cases a with
  | mint => exact nomatch gives
  | register entries =>
      refine (proper earlier entries later rfl entry gives).imp_right fun before => ?_
      rw [minted_append]
      exact List.mem_append_left _ before

/-- A helper that was neither built in nor minted has no name. -/
theorem name?_run_unknown {history : List Action} (proper : Proper history) {h : Helper}
    (own : h.isBuiltIn = false) (new : h ∉ minted initial history) :
    (run history).name? h = none := by
  have builtIn : Helper.builtIns.lookup h = none := by
    refine List.lookup_eq_none_iff.mpr fun entry there => ?_
    have known : ∀ entry ∈ Helper.builtIns, entry.1.isBuiltIn = true := by decide
    rw [bne_iff_ne]
    rintro rfl
    exact Bool.false_ne_true (own.symm.trans (known entry there))
  rw [name?_run, builtIn, Option.or_none]
  refine List.lookup_eq_none_iff.mpr fun entry there => ?_
  rw [bne_iff_ne]
  rintro rfl
  rcases given_known proper entry (List.mem_reverse.mp there) with known | before
  · exact Bool.false_ne_true (own.symm.trans known)
  · exact new before

/-! ## New helpers -/

/-- Helpers that a history mints are new: no two are the same, none is built in, and none has a
    name when it is minted. -/
structure Fresh (history : List Action) : Prop where
  distinct : (minted initial history).Nodup
  own : ∀ h ∈ minted initial history, h.isBuiltIn = false
  unnamed : ∀ earlier later, history = earlier ++ .mint :: later →
    (run earlier).name? (run earlier).mint.1 = none

/-- How many numbers there are behind those of the built-in helpers. -/
def capacity : Nat := UInt32.size - Helper.builtIns.length

/-- As long as the numbers last, the counter does not come round. -/
theorem toNat_numbered {k : Nat} (small : k < capacity) :
    (numbered initial.next k).id.toNat = Helper.builtIns.length + k := by
  have bound : k < 4294967287 := small
  show ((9 : UInt32) + UInt32.ofNat k).toNat = 9 + k
  rw [UInt32.toNat_add, UInt32.toNat_ofNat']
  show (9 + k % 4294967296) % 4294967296 = 9 + k
  omega

/-- As long as the numbers last, what is minted is not built in. -/
theorem numbered_own {k : Nat} (small : k < capacity) :
    (numbered initial.next k).isBuiltIn = false := by
  rw [Helper.isBuiltIn, toNat_numbered small]
  exact decide_eq_false (Nat.not_lt.mpr (Nat.le_add_right _ _))

/-- As long as the numbers last, none is minted twice. -/
theorem numbered_inj {j k : Nat} (hj : j < capacity) (hk : k < capacity)
    (same : numbered initial.next j = numbered initial.next k) : j = k := by
  have numbers := congrArg (fun h : Helper => h.id.toNat) same
  simp only [toNat_numbered hj, toNat_numbered hk] at numbers
  exact Nat.add_left_cancel numbers

/-- The number that comes after all of them is that of a built-in helper. -/
theorem numbered_capacity : numbered initial.next capacity = Helper.fragment := by decide

/-- A helper is minted exactly if the counter reaches its number. -/
theorem mem_minted_initial {history : List Action} {h : Helper} :
    h ∈ minted initial history
      ↔ ∃ k < (minted initial history).length, numbered initial.next k = h := by
  have numbers : h ∈ minted initial history
      ↔ h ∈ (List.range (minted initial history).length).map (numbered initial.next) := by
    rw [← minted_eq]
  rw [numbers, List.mem_map]
  simp only [List.mem_range]

/-- The helper that is minted next. -/
theorem mint_run (history : List Action) :
    (run history).mint.1 = numbered initial.next (minted initial history).length := by
  have last : minted initial (history ++ [.mint])
      = minted initial history ++ [(run history).mint.1] := by
    rw [minted_append, ← run]
    rfl
  have length : (minted initial (history ++ [.mint])).length
      = (minted initial history).length + 1 := by
    rw [last, List.length_append, List.length_singleton]
  have numbers := minted_eq initial (history ++ [.mint])
  rw [length, List.range_succ, List.map_append, last] at numbers
  exact List.singleton_inj.mp (List.append_inj_right' numbers rfl)

/-- No more than `capacity` helpers are all different, and none of them is built in. -/
theorem minted_distinct {history : List Action}
    (few : (minted initial history).length ≤ capacity) : (minted initial history).Nodup := by
  rw [minted_eq]
  refine List.Nodup.map_on ?_ List.nodup_range
  intro j hj k hk same
  exact numbered_inj (Nat.lt_of_lt_of_le (List.mem_range.mp hj) few)
    (Nat.lt_of_lt_of_le (List.mem_range.mp hk) few) same

/-- **NEW AS LONG AS THE NUMBERS LAST**. In a history in which names are given to known helpers, the
    helpers minted are new exactly if there are no more of them than numbers behind those of the
    built-in ones. -/
theorem fresh_iff {history : List Action} (proper : Proper history) :
    Fresh history ↔ (minted initial history).length ≤ capacity := by
  constructor
  · intro fresh
    by_contra more
    -- One helper too many is the built-in one where the numbers start again.
    have again : Helper.fragment ∈ minted initial history :=
      mem_minted_initial.mpr ⟨capacity, Nat.lt_of_not_le more, numbered_capacity⟩
    exact nomatch fresh.own _ again
  · intro few
    refine ⟨minted_distinct few, ?_, ?_⟩
    · intro h there
      obtain ⟨k, small, rfl⟩ := mem_minted_initial.mp there
      exact numbered_own (Nat.lt_of_lt_of_le small few)
    · intro earlier later split
      subst split
      have fewer : (minted initial earlier).length < capacity := by
        rw [minted_append, List.length_append] at few
        exact Nat.lt_of_lt_of_le (Nat.lt_add_of_pos_right (Nat.succ_pos _)) few
      -- The next helper is numbered behind those minted so far, so that none of them can have been
      -- named as it.
      have new : (run earlier).mint.1 ∉ minted initial earlier := by
        rw [mint_run]
        intro there
        obtain ⟨k, small, same⟩ := mem_minted_initial.mp there
        exact Nat.ne_of_lt small (numbered_inj (Nat.lt_trans small fewer) fewer same)
      refine name?_run_unknown proper.before ?_ new
      rw [mint_run]
      exact numbered_own fewer

/-- A helper of each kind is named between two mintings, and the second helper minted is new. -/
theorem fresh_pair :
    let history : List Action := [.mint, .register [(⟨9⟩, "slot"), (Helper.fragment, "F")], .mint]
    Proper history ∧ (minted initial history).length = 2 ∧ Fresh history := by
  intro history
  have first : Proper [.mint] := Proper.nil.concat (by decide)
  have named : Proper [.mint, .register [(⟨9⟩, "slot"), (Helper.fragment, "F")]] :=
    first.concat (by decide)
  have proper : Proper history := named.concat (by decide)
  exact ⟨proper, rfl, (fresh_iff proper).mpr (by decide)⟩

/-! ## The end of the numbers -/

theorem length_minted_replicate (r : Registry) (n : Nat) :
    (minted r (List.replicate n .mint)).length = n := by
  induction n generalizing r with
  | zero => rfl
  | succ n ih =>
      rw [List.replicate_succ, minted, List.length_append, ih, Nat.add_comm]
      rfl

/-- Minting again and again is minting many. -/
theorem foldl_mint (r : Registry) (n : Nat) :
    (List.replicate n Action.mint).foldl after r = r.mintMany n := by
  induction n generalizing r with
  | zero => exact r.mintMany_zero.symm
  | succ n ih =>
      rw [List.replicate_succ, List.foldl_cons, ih, mintMany_succ]
      rfl

theorem proper_replicate (n : Nat) : Proper (List.replicate n .mint) := by
  intro earlier entries later split
  have there : Action.register entries ∈ List.replicate n .mint := by
    rw [split]
    exact List.mem_append_right _ List.mem_cons_self
  exact nomatch List.eq_of_mem_replicate there

/-- The counter comes round: behind all the other numbers it mints `Fragment`, which is built in and
    has its name. -/
theorem exhausted_counter :
    Proper (List.replicate (capacity + 1) .mint)
      ∧ (run (List.replicate capacity .mint)).mint.1 = Helper.fragment
      ∧ (run (List.replicate capacity .mint)).name? Helper.fragment = some "Fragment"
      ∧ ¬ Fresh (List.replicate (capacity + 1) .mint) := by
  have proper := proper_replicate (capacity + 1)
  refine ⟨proper, ?_, ?_, ?_⟩
  · rw [mint_run, length_minted_replicate, numbered_capacity]
  · rw [run, foldl_mint]
    rfl
  · rw [fresh_iff proper, length_minted_replicate]
    exact Nat.not_succ_le_self capacity

end Vdom.Registry
