import Vdom.Helper
/-!
# Helper usage — the set of helpers that some code refers to

The set is the list of its members by ascending number, so it can be reported as it stands.
-/

namespace Vdom.Helper

/-- Put a helper in its place in an ascending list, unless it is there. -/
def place (h : Helper) : List Helper → List Helper
  | [] => [h]
  | a :: rest =>
    if h.id < a.id then h :: a :: rest
    else if h = a then a :: rest
    else a :: place h rest

theorem mem_place {h x : Helper} {hs : List Helper} : x ∈ place h hs ↔ x = h ∨ x ∈ hs := by
  induction hs with
  | nil => simp [place]
  | cons a rest ih =>
    by_cases lower : h.id < a.id
    · simp [place, lower]
    · by_cases found : h = a
      · subst found; simp [place]
      · simp only [place, if_neg lower, if_neg found, List.mem_cons, ih]
        exact or_left_comm

theorem pairwise_place {h : Helper} {hs : List Helper}
    (ascending : hs.Pairwise fun a b => a.id < b.id) :
    (place h hs).Pairwise fun a b => a.id < b.id := by
  induction hs with
  | nil => simp [place]
  | cons a rest ih =>
    obtain ⟨below, tail⟩ := List.pairwise_cons.mp ascending
    -- The helper goes in front, is there already, or belongs into the rest.
    by_cases lower : h.id < a.id
    · simp only [place, if_pos lower, List.pairwise_cons]
      refine ⟨fun b hb => ?_, below, tail⟩
      rcases List.mem_cons.mp hb with rfl | hb
      · exact lower
      · exact UInt32.lt_trans lower (below b hb)
    · by_cases found : h = a
      · simpa [place, lower, found] using ascending
      · simp only [place, if_neg lower, if_neg found, List.pairwise_cons]
        refine ⟨fun b hb => ?_, ih tail⟩
        rcases mem_place.mp hb with rfl | hb
        · refine UInt32.lt_of_le_of_ne (UInt32.not_lt.mp lower) fun same => found ?_
          cases b; cases a; simp_all
        · exact below b hb

/-- A set of helpers, listed by ascending number. -/
structure Usage where
  toList : List Helper
  ascending : toList.Pairwise fun a b => a.id < b.id

namespace Usage

/-- No helper. -/
def empty : Usage := ⟨[], List.Pairwise.nil⟩

/-- The set with one more helper. -/
def insert (u : Usage) (h : Helper) : Usage :=
  ⟨place h u.toList, pairwise_place u.ascending⟩

@[simp] theorem mem_insert {u : Usage} {h x : Helper} :
    x ∈ (u.insert h).toList ↔ x = h ∨ x ∈ u.toList :=
  mem_place

/-- Whether a helper is in the set. -/
def contains (u : Usage) (h : Helper) : Bool := u.toList.contains h

/-- Whether the set has no member. -/
def isEmpty (u : Usage) : Bool := u.toList.isEmpty

end Usage

end Vdom.Helper
