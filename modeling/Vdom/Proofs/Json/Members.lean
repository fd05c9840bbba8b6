import Mathlib.Data.List.Nodup
import Vdom.Proofs.Json.Reading
/-!
# Members in any order — an object is what its names lead to

While an object is read, the draft of its record is a function of the members seen so far: at each
field it keeps what the field's name leads to among them. If no two names are alike, a member adds
what it says and disturbs nothing else, so the draft at the end is the same function of all
members, in whatever order they stand and whatever members of unknown names are among them.

* **`Named`** — names that are strings, no two of them alike.
* **`lookup_added`** — what a member adds.
* **`Record.fills_drafts`**, **`Record.Takes.fresh`** — drafts as functions of the members seen.
* **`or_decoded`** — a field is what its name leads to, or else its standard value.
-/

namespace Vdom.Json

/-! ## Members by name -/

/-- Different strings have different code points. -/
theorem points_injective : Function.Injective points := by
  intro s s' same
  have chars : s.toList = s'.toList :=
    List.map_injective_iff.mpr (fun _ _ => Char.toNat_inj.mp) same
  exact String.toList_inj.mp chars

/-- Names of an object that are strings, no two of them alike. -/
def Named (ms : Members) : Prop :=
  (ms.map Prod.fst).Nodup ∧ ∀ m ∈ ms, ∃ name, m.1 = points name

section Lookup

variable {seen : Members} {name : Points} {t : Tree}

/-- A name that has not been seen has no value. -/
theorem lookup_fresh (fresh : name ∉ seen.map Prod.fst) : seen.lookup name = none := by
  refine List.lookup_eq_none_iff.mpr fun other there => bne_iff_ne.mpr ?_
  rintro rfl
  exact fresh (List.mem_map_of_mem there)

/-- A member that is added is found by its name, if no other has that name. -/
theorem lookup_added {key other : String} (fresh : points key ∉ seen.map Prod.fst) :
    (seen ++ [(points key, t)]).lookup (points other)
      = if key = other then some t else seen.lookup (points other) := by
  rw [List.lookup_append]
  split
  · rename_i same
    rw [← same, lookup_fresh fresh, List.lookup_cons_self, Option.none_or]
  · rename_i differ
    have other : points other ≠ points key := points_injective.ne (Ne.symm differ)
    rw [List.lookup_cons, beq_false_of_ne other, List.lookup_nil, Option.or_none]

/-- Among different names, none stands twice. -/
theorem fresh_behind {m : Points × Tree} {front back : Members}
    (distinct : ((front ++ m :: back).map Prod.fst).Nodup) : m.1 ∉ front.map Prod.fst := by
  rw [List.map_append, List.map_cons, List.nodup_middle, List.nodup_cons] at distinct
  exact fun inside => distinct.1 (List.mem_append_left _ inside)

/-- Among different names, each finds its member. -/
theorem lookup_mem {ms : Members} (distinct : (ms.map Prod.fst).Nodup) (there : (name, t) ∈ ms) :
    ms.lookup name = some t := by
  obtain ⟨front, back, rfl⟩ := List.append_of_mem there
  rw [List.lookup_append, lookup_fresh (fresh_behind distinct), List.lookup_cons_self,
    Option.none_or]

end Lookup

/-- Members with the names of a list, all different, are named by strings and only once. -/
theorem named_of_names {ms : Members} (names : List String)
    (same : ms.map Prod.fst = names.map points) (distinct : names.Nodup) : Named ms := by
  refine ⟨same ▸ distinct.map points_injective, fun m there => ?_⟩
  have inside : m.1 ∈ names.map points := same ▸ List.mem_map_of_mem there
  obtain ⟨name, -, eq⟩ := List.mem_map.mp inside
  exact ⟨name, eq.symm⟩

/-! ## Members in any order -/

/-- If a draft is a function of the members seen, and each member that comes first of its name
    leads from one such draft to the next, then members of different names fill it in any order. -/
theorem Record.fills_drafts {δ : Type} {r : Record δ} (draft : Members → δ) {ms : Members}
    (distinct : (ms.map Prod.fst).Nodup)
    (step : ∀ seen m, m ∈ ms → m.1 ∉ seen.map Prod.fst →
      r.Takes (draft seen) m (draft (seen ++ [m]))) :
    r.Fills (draft []) ms (draft ms) := by
  -- Along the members that are still to come, behind those seen.
  have behind : ∀ rest seen, seen ++ rest = ms → r.Fills (draft seen) rest (draft ms) := by
    intro rest
    induction rest with
    | nil =>
        intro seen whole
        rw [← whole, List.append_nil]
        exact .done
    | cons m rest ih =>
        intro seen whole
        have fresh : m.1 ∉ seen.map Prod.fst := fresh_behind (whole ▸ distinct)
        have there : m ∈ ms := whole ▸ List.mem_append_right _ List.mem_cons_self
        refine .step (step seen m there fresh) (ih (seen ++ [m]) ?_)
        rw [List.append_assoc, List.singleton_append, whole]
  exact behind ms [] rfl

/-- A field of a name not seen before takes what its reader accepts, if drafts keep at the field
    what they find by that name. -/
theorem Record.Takes.fresh {α δ : Type} {r : Record δ} {draft : Members → δ} {seen : Members}
    (name : String) (get : δ → Option α) (set : δ → α → δ) (decode : Tree → Option α)
    {read : Reader α} {t : Tree} {a : α}
    (found : r.fields.find? (fun f => f.name = name) = some (.of name get set read))
    (kept : get (draft seen) = (seen.lookup (points name)).bind decode)
    (fresh : points name ∉ seen.map Prod.fst) (accepts : Accepts read t a)
    (next : draft (seen ++ [(points name, t)]) = set (draft seen) a) :
    r.Takes (draft seen) (points name, t) (draft (seen ++ [(points name, t)])) := by
  have unset : get (draft seen) = none := by
    rw [kept, lookup_fresh fresh]
    rfl
  rw [next]
  exact .field name get set found unset accepts

/-- A record that need not be complete takes every draft. -/
theorem Record.finish_incomplete {δ : Type} {r : Record δ} (incomplete : r.complete = false)
    (d : δ) : r.finish d = .ok d := by
  rw [finish]
  split
  · rw [incomplete]
    rfl
  · rfl

/-- The truth value that a value is. -/
def Tree.bool? : Tree → Option Bool
  | .bool b => some b
  | _ => none

/-- The string that a value is. -/
def Tree.string? : Tree → Option String
  | .text ps => some (String.ofList (ps.map Char.ofNat))
  | _ => none

/-- The code points of a string make up this string again. -/
theorem string?_points (s : String) : (Tree.text (points s)).string? = some s := by
  simp [Tree.string?, points, Function.comp_def]

/-- What a name leads to, or else a standard value, is what is read by the name. -/
theorem or_decoded {α : Type} (encode : α → Tree) {decode : Tree → Option α}
    (back : ∀ a, decode (encode a) = some a) {found : Option Tree}
    (typed : ∀ t ∈ found, ∃ a, t = encode a) (standard : α) :
    found.or (some (encode standard)) = some (encode ((found.bind decode).getD standard)) := by
  cases found with
  | none => rfl
  | some t =>
      obtain ⟨a, rfl⟩ := typed t rfl
      rw [Option.some_or, Option.bind_some, back, Option.getD_some]

end Vdom.Json
