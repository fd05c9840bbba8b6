import Mathlib.Data.List.Induction
import Vdom.Emit.Arguments
/-!
# Arguments in their places — a filled list is the shortest that keeps them

A call has its arguments by position, so a gap may be left out only if no argument stands behind
it. `Keeps` says of any list that it has all arguments where they belong; the filled list is one of
these, and the beginning of every other.

* **`fillGaps_concat_none`**, **`fillGaps_concat_some`** — what the last argument does: an absent
  one vanishes, a present one keeps everything in front of it.
* **`fillGaps_arranged`** — so a filled list is empty or ends in a present argument with only gaps
  behind it.
* **`Arranged.prefix_of_keeps`** — whatever keeps the arguments starts with such a list.
* **`fillGaps_shortest`** — the main theorem.
-/

namespace Vdom.Emit

variable {α : Type}

/-! ## The last argument -/

/-- A gap in front of something is filled. -/
theorem fillGaps_cons_none (filler : α) {args : List (Option α)}
    (filled : fillGaps filler args ≠ []) :
    fillGaps filler (none :: args) = filler :: fillGaps filler args := by
  obtain ⟨first, others, shape⟩ := List.exists_cons_of_ne_nil filled
  rw [fillGaps, shape]

/-- With an argument at the end, all gaps before it are filled. -/
theorem fillGaps_concat_some (filler : α) (args : List (Option α)) (a : α) :
    fillGaps filler (args ++ [some a]) = args.map (·.getD filler) ++ [a] := by
  induction args with
  | nil => rfl
  | cons arg args ih =>
      cases arg with
      | none =>
          have filled : fillGaps filler (args ++ [some a]) ≠ [] := by
            rw [ih]
            exact List.concat_ne_nil a _
          rw [List.cons_append, fillGaps_cons_none filler filled, ih]
          rfl
      | some b =>
          rw [List.cons_append, fillGaps, ih]
          rfl

/-- A gap at the end is left out. -/
theorem fillGaps_concat_none (filler : α) (args : List (Option α)) :
    fillGaps filler (args ++ [none]) = fillGaps filler args := by
  induction args with
  | nil => rfl
  | cons arg args ih =>
      cases arg with
      | none => rw [List.cons_append, fillGaps, fillGaps, ih]
      | some b => rw [List.cons_append, fillGaps, fillGaps, ih]

/-- Fillers and arguments that are related give lists that are related. -/
theorem fillGaps_rel {β : Type} {r : α → β → Prop} {f : α} {g : β} (filler : r f g)
    {args : List (Option α)} {others : List (Option β)}
    (each : List.Forall₂ (Option.Rel r) args others) :
    List.Forall₂ r (fillGaps f args) (fillGaps g others) := by
  induction each with
  | nil => exact .nil
  | @cons _ _ rest others related _ ih =>
      cases related with
      | some related => exact .cons related ih
      | none =>
          rw [fillGaps, fillGaps]
          generalize fillGaps f rest = filled at ih ⊢
          generalize fillGaps g others = filled' at ih ⊢
          cases ih with
          | nil => exact .nil
          | cons first rest => exact .cons filler (.cons first rest)

/-! ## The last present argument -/

/-- What is left of arguments: nothing if all are absent, and else all up to the last present one,
    with the gaps in front of it filled. -/
inductive Arranged (filler : α) : List (Option α) → List α → Prop where
  | absent (gaps : Nat) : Arranged filler (List.replicate gaps none) []
  | present (front : List (Option α)) (a : α) (gaps : Nat) :
      Arranged filler (front ++ some a :: List.replicate gaps none)
        (front.map (·.getD filler) ++ [a])

/-- **FROM THE RIGHT**: one absent argument more at the end makes no difference. -/
theorem Arranged.gap {filler : α} {args : List (Option α)} {l : List α}
    (arranged : Arranged filler args l) : Arranged filler (args ++ [none]) l := by
  cases arranged with
  | absent gaps =>
      rw [← List.replicate_succ']
      exact .absent (gaps + 1)
  | present front a gaps =>
      rw [List.append_assoc, List.cons_append, ← List.replicate_succ']
      exact .present front a (gaps + 1)

/-- **ARRANGED**: what is kept, and behind it nothing but gaps; by induction from the end of the
    list. -/
theorem fillGaps_arranged (filler : α) (args : List (Option α)) :
    Arranged filler args (fillGaps filler args) := by
  induction args using List.reverseRecOn with
  | nil => exact .absent 0
  | append_singleton args arg ih =>
      cases arg with
      | none =>
          rw [fillGaps_concat_none]
          exact ih.gap
      | some a =>
          rw [fillGaps_concat_some]
          exact .present args a 0

/-! ## Lists that keep the arguments -/

/-- A list has the arguments of `args` in their places: with `filler` added up to their number it
    is all of them with the gaps filled, and no present one is left to what is added. -/
structure Keeps (filler : α) (args : List (Option α)) (l : List α) : Prop where
  padded : l ++ List.replicate (args.length - l.length) filler = args.map (·.getD filler)
  present : ∀ (i : Nat) (a : α), args[i]? = some (some a) → i < l.length

variable {filler : α} {args : List (Option α)} {l : List α}

/-- Behind the last present argument there is none. -/
theorem Arranged.lt_length (arranged : Arranged filler args l) {i : Nat} {a : α}
    (there : args[i]? = some (some a)) : i < l.length := by
  refine Nat.lt_of_not_le fun behind => ?_
  cases arranged with
  | absent gaps =>
      rw [List.getElem?_replicate] at there
      split at there
      · exact nomatch Option.some.inj there
      · exact nomatch there
  | present front b gaps =>
      rw [List.length_append, List.length_map, List.length_singleton] at behind
      obtain ⟨place, rfl⟩ := Nat.exists_eq_add_of_le behind
      rw [List.append_cons, Nat.add_assoc, List.getElem?_append_right (by simp)] at there
      rw [List.getElem?_replicate] at there
      split at there
      · exact nomatch Option.some.inj there
      · exact nomatch there

/-- A list that is arranged keeps every argument at its place. -/
theorem Arranged.keeps (arranged : Arranged filler args l) : Keeps filler args l := by
  refine ⟨?_, fun i a there => arranged.lt_length there⟩
  cases arranged with
  | absent gaps =>
      rw [List.nil_append, List.length_nil, Nat.sub_zero, List.length_replicate,
        List.map_replicate]
      rfl
  | present front a gaps =>
      have behind : (front ++ some a :: List.replicate gaps none).length
          - (front.map (·.getD filler) ++ [a]).length = gaps := by
        simp only [List.length_append, List.length_cons, List.length_map, List.length_replicate,
          List.length_nil]
        omega
      rw [behind, List.map_append, List.map_cons, List.map_replicate, List.append_assoc]
      rfl

/-- **NOTHING SHORTER**: a list that keeps the arguments starts with what is left of them. -/
theorem Arranged.prefix_of_keeps (arranged : Arranged filler args l) {m : List α}
    (keeps : Keeps filler args m) : l <+: m := by
  -- Both lists start the same filled list, and the last present argument is in `m`.
  have long : l.length ≤ m.length := by
    cases arranged with
    | absent gaps => exact Nat.zero_le _
    | present front a gaps =>
        have last := keeps.present front.length a (by simp)
        rw [List.length_append, List.length_map, List.length_singleton]
        exact last
  refine List.prefix_of_prefix_length_le ?_ ⟨_, keeps.padded⟩ long
  exact ⟨_, arranged.keeps.padded⟩

/-- **THE SHORTEST LIST IN PLACE**. Filling up the filled list to the number of the arguments yields
    the arguments with their gaps filled, and no present one is lost; every other list of this kind
    starts with the filled one. It is empty if all arguments are absent, and ends in a present one
    otherwise, whatever that is. Filled once more, it stays as it is. -/
theorem fillGaps_shortest (filler : α) (args : List (Option α)) :
    Keeps filler args (fillGaps filler args)
    ∧ (∀ l, Keeps filler args l → fillGaps filler args <+: l)
    ∧ (fillGaps filler args = [] ↔ ∀ arg ∈ args, arg = none)
    ∧ (fillGaps filler args ≠ [] → ∃ a, (fillGaps filler args).getLast? = some a
      ∧ args[(fillGaps filler args).length - 1]? = some (some a))
    ∧ fillGaps filler ((fillGaps filler args).map some) = fillGaps filler args := by
  have arranged := fillGaps_arranged filler args
  refine ⟨arranged.keeps, fun l keeps => arranged.prefix_of_keeps keeps, ?_, ?_,
    fillGaps_map_some filler _⟩
  -- All that remains is read off the arrangement, so the function itself can be forgotten.
  · generalize fillGaps filler args = filled at arranged
    cases arranged with
    | absent gaps => exact iff_of_true rfl fun arg there => List.eq_of_mem_replicate there
    | present front a gaps =>
        refine iff_of_false (List.concat_ne_nil a _) fun absent => ?_
        have there : some a ∈ front ++ some a :: List.replicate gaps none :=
          List.mem_append_right _ List.mem_cons_self
        exact nomatch absent _ there
  · intro filled
    generalize fillGaps filler args = l at arranged filled
    cases arranged with
    | absent gaps => exact absurd rfl filled
    | present front a gaps => exact ⟨a, by simp, by simp⟩

/-- A call with a gap, a present argument that is a `null`, and nothing behind it. -/
theorem literal_null_kept :
    Keeps "null" [some "p", none, some "null", none] ["p", "null", "null", "null"]
    ∧ fillGaps "null" [some "p", none, some "null", none] = ["p", "null", "null"]
    ∧ ["p", "null", "null"] <+: ["p", "null", "null", "null"] := by
  have keeps : Keeps "null" [some "p", none, some "null", none] ["p", "null", "null", "null"] := by
    refine ⟨rfl, fun i a there => ?_⟩
    exact (List.getElem?_eq_some_iff.mp there).1
  obtain ⟨-, shortest, -⟩ := fillGaps_shortest "null" [some "p", none, some "null", none]
  exact ⟨keeps, rfl, shortest _ keeps⟩

end Vdom.Emit
