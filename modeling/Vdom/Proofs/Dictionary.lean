import Mathlib.Data.List.Sort
import Vdom.Value
/-!
# Dictionaries — equal by what they hold

A dictionary keeps its names in ascending order, and equality goes through them in that order.
Neither can be seen from outside: what a dictionary holds under each name decides.

* **`same_iff`** — two dictionaries are equal exactly if they hold equal values, or none, under
  every name; which names there are can be read off their values (`mem_names_iff`), and names that
  ascend are given by which there are.
* **`sameFields_iff`** — so it is with objects, whose equality goes down into the values.
-/

namespace Vdom

/-! ## Values that may be absent -/

variable {α : Type} {same : α → α → Bool}

/-- What may be absent equals itself if everything does that may be there. -/
theorem sameOption_of_refl (refl : ∀ a, same a a = true) (o : Option α) :
    sameOption same o o = true := by
  cases o with
  | none => rfl
  | some a => exact refl a

/-- Of equal things that may be absent, both are there or neither is. -/
theorem isSome_of_sameOption {a b : Option α} (alike : sameOption same a b = true) :
    a.isSome = b.isSome := by
  cases a <;> cases b <;> first | rfl | cases alike

namespace Dictionary

/-! ## What is held -/

/-- The names of a dictionary are those that it holds a value under. -/
theorem mem_names_iff (d : Dictionary α) (name : String) :
    name ∈ d.names.toList ↔ (d.lookup name).isSome = true := by
  rw [lookup]
  split
  next there => exact iff_of_true there rfl
  next absent => exact iff_of_false absent Bool.false_ne_true

/-! ## Equality -/

/-- Equal dictionaries have the same names. -/
theorem names_of_same {d e : Dictionary α} (alike : d.same same e = true) : d.names = e.names := by
  by_contra differ
  rw [Dictionary.same, dif_neg differ] at alike
  cases alike

/-- Under the same names, the values decide. -/
theorem same_under {names : Names} (x y : ∀ name ∈ names.toList, α) :
    (⟨names, x⟩ : Dictionary α).same same ⟨names, y⟩ = true
      ↔ ∀ name (there : name ∈ names.toList), same (x name there) (y name there) = true := by
  rw [Dictionary.same, dif_pos rfl, List.all_eq_true]
  exact ⟨fun alike name there => alike ⟨name, there⟩ (List.mem_attach _ _),
    fun alike n _ => alike n.val n.property⟩

/-- **NO ORDER SHOWS**: dictionaries are equal exactly if they hold equal values, or none, under
    every name. -/
theorem same_iff (d e : Dictionary α) :
    d.same same e = true ↔ ∀ name, sameOption same (d.lookup name) (e.lookup name) = true := by
  constructor
  · intro alike name
    have names := names_of_same alike
    obtain ⟨ns, x⟩ := d
    obtain ⟨_, y⟩ := e
    obtain rfl : ns = _ := names
    rw [lookup, lookup]
    by_cases there : name ∈ ns.toList
    · rw [dif_pos there, dif_pos there]
      exact (same_under x y).mp alike name there
    · rw [dif_neg there, dif_neg there]
      rfl
  · intro alike
    -- Which values are there says which names are, and names that ascend have one order.
    have names : d.names = e.names := by
      ext1
      refine d.names.ascending.eq_of_mem_iff e.names.ascending fun name => ?_
      rw [mem_names_iff, mem_names_iff, isSome_of_sameOption (alike name)]
    obtain ⟨ns, x⟩ := d
    obtain ⟨_, y⟩ := e
    obtain rfl : ns = _ := names
    refine (same_under x y).mpr fun name there => ?_
    have here := alike name
    rw [lookup, lookup, dif_pos there, dif_pos there] at here
    exact here

/-- A dictionary equals itself if all values do. -/
theorem same_self (refl : ∀ a, same a a = true) (d : Dictionary α) : d.same same d = true :=
  (same_iff d d).mpr fun name => sameOption_of_refl refl (d.lookup name)

end Dictionary

/-! ## Objects -/

/-- Objects are compared as dictionaries of values. -/
theorem sameFields_eq (d e : Fields) : sameFields d e = d.same Value.same e := by
  cases d
  cases e
  rw [sameFields, Dictionary.same]

/-- Objects have equal fields exactly if they hold equal values, or none, under every name. -/
theorem sameFields_iff (d e : Fields) :
    sameFields d e = true
      ↔ ∀ name, sameOption Value.same (d.lookup name) (e.lookup name) = true := by
  rw [sameFields_eq]
  exact d.same_iff e

end Vdom
