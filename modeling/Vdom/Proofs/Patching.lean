import Vdom.Node.Scene
import Vdom.Proofs.Rounding
/-!
# Patching — when one node stands for another

Whether a node may be updated in place of another is asked of any two nodes, so the answer should
be that of an identity.

* **`Kind.same_trans`**, **`Binary64.same_trans`** — kinds and binary64 numbers leave no gap.
* **`Key.same_trans_iff`** — keys leave one: two different whole numbers may both be equal to a
  binary64 number between them, since a whole number is rounded before it is compared with one.
* **`patchable_identity`** — the test holds of a node and itself, does not depend on the order of
  the nodes, and is transitive up to that gap, which needs a whole number of more than 53 places.
* **`patchable_not_transitive`** — three nodes in the gap.
-/

namespace Vdom

/-- To be the same thing is an equivalence. -/
theorem Shared.is_trans {α : Type} {a b c : Shared α} (ab : a.is b = true) (bc : b.is c = true) :
    a.is c = true :=
  beq_iff_eq.mpr ((beq_iff_eq.mp ab).trans (beq_iff_eq.mp bc))

namespace Kind

theorem same_self (k : Kind) : k.same k = true := by
  cases k <;> simp [same, Shared.is]

theorem same_comm (k l : Kind) : k.same l = l.same k := by
  cases k <;> cases l <;> simp [same, Shared.is, Bool.beq_comm]

/-- Kinds that are the same as one kind are the same. -/
theorem same_trans {k l m : Kind} (kl : k.same l = true) (lm : l.same m = true) :
    k.same m = true := by
  cases k with
  | element a =>
      cases l with
      | element b =>
          obtain rfl : a = b := beq_iff_eq.mp kl
          exact lm
      | _ => exact nomatch kl
  | text =>
      cases l with
      | text => exact lm
      | _ => exact nomatch kl
  | fragment =>
      cases l with
      | fragment => exact lm
      | _ => exact nomatch kl
  | component a =>
      cases l with
      -- Components are compared by identity, everything else by value.
      | component b =>
          cases m with
          | component c => exact Shared.is_trans kl lm
          | _ => exact nomatch lm
      | _ => exact nomatch kl

end Kind

/-! ## Keys -/

namespace Key

/-- The binary64 number as which a numeric key is compared with those. -/
def rounded? : Key → Option Binary64
  | .int i => some (.ofInt i.toInt)
  | .number x => some x
  | _ => none

/-- The keys that values stand for, and none. -/
def Readable (k : Option Key) : Prop :=
  ∃ (value : Option Value) (id : Nat), k = value.bind (ofValue id)

/-- No key that is read from a value is other than a number, since values are finite. -/
theorem isNaN_of_readable {x : Binary64} (h : Readable (some (.number x))) :
    x.isNaN = false := by
  obtain ⟨value, id, hvalue⟩ := h
  cases value with
  | none => exact nomatch hvalue
  | some v =>
      cases v with
      | int i =>
          rw [Option.bind_some, ofValue] at hvalue
          -- A whole number of more than 64 bits is rounded, which yields a number.
          split at hvalue
          · exact nomatch hvalue
          · obtain rfl : x = .ofInt i := by simpa using hvalue
            exact Binary64.isNaN_nearest _ _ _
      | float y =>
          obtain rfl : x = y.val := by simpa [ofValue] using hvalue
          exact Binary64.isNaN_of_finite y.property
      | _ => simp [ofValue] at hvalue

/-- Whether a key is a number that is none. -/
def isNaN : Option Key → Bool
  | some (.number x) => x.isNaN
  | _ => false

/-- A key equals itself, unless it is not a number. -/
theorem sameOption_self_eq (k : Option Key) : sameOption same k k = !isNaN k := by
  cases k with
  | none => rfl
  | some k =>
      cases k with
      | number x => exact Binary64.same_self_eq x
      | _ => simp [sameOption, same, isNaN, Shared.is]

theorem same_comm (k l : Key) : k.same l = l.same k := by
  cases k <;> cases l <;> simp [same, Shared.is, Bool.beq_comm, Binary64.same_comm]

/-- What is equal to a numeric key is numeric, and equal to it after rounding. -/
theorem rounded_of_same {k l : Key} {y : Binary64} (h : k.same l = true)
    (hl : l.rounded? = some y) : ∃ x, k.rounded? = some x ∧ x.same y = true := by
  -- Rounding is defined on numbers, and what equals a number is one.
  cases l with
  | int j =>
      obtain rfl := Option.some.inj hl
      cases k with
      | int i =>
          obtain rfl : i = j := by simpa [same] using h
          exact ⟨_, rfl, Binary64.same_self (Binary64.isNaN_nearest _ _ _)⟩
      | number x =>
          rw [same, Binary64.same_comm] at h
          exact ⟨x, rfl, h⟩
      | _ => exact nomatch h
  | number x =>
      obtain rfl := Option.some.inj hl
      cases k with
      | int i => exact ⟨_, rfl, h⟩
      | number w => exact ⟨w, rfl, h⟩
      | _ => exact nomatch h
  | _ => exact nomatch hl

/-- Numeric keys that are rounded to equal numbers are equal, unless both are whole. -/
theorem same_of_rounded {k m : Key} {y z : Binary64} (hk : k.rounded? = some y)
    (hm : m.rounded? = some z) (h : y.same z = true) :
    k.same m = true ↔ ¬ ∃ i j, k = .int i ∧ m = .int j ∧ i ≠ j := by
  cases k with
  | int i =>
      obtain rfl := Option.some.inj hk
      cases m with
      -- Only here both keys are compared unrounded.
      | int j => simp [same]
      | number x =>
          obtain rfl := Option.some.inj hm
          simpa [same] using h
      | _ => exact nomatch hm
  | number x =>
      obtain rfl := Option.some.inj hk
      cases m with
      | int j =>
          obtain rfl := Option.some.inj hm
          simpa [same, Binary64.same_comm] using h
      | number w =>
          obtain rfl := Option.some.inj hm
          simpa [same] using h
      | _ => exact nomatch hm
  | _ => exact nomatch hk

/-- Two different whole numbers with a binary64 number between them. -/
def Merged (k l m : Option Key) : Prop :=
  ∃ i x j, k = some (.int i) ∧ l = some (.number x) ∧ m = some (.int j) ∧ i ≠ j

/-- Only a binary64 number can merge two keys. -/
theorem not_merged {k m : Option Key} {l : Key} (other : ∀ x, l ≠ .number x) :
    ¬ Merged k (some l) m := by
  rintro ⟨i, x, j, -, number, -⟩
  exact other x (Option.some.inj number)

/-- **ONE GAP**: keys that are equal to one key are equal, unless it merges whole numbers. -/
theorem same_trans_iff {k l m : Key} (kl : k.same l = true) (lm : l.same m = true) :
    k.same m = true ↔ ¬ Merged (some k) (some l) (some m) := by
  have numeric : ∀ y, l.rounded? = some y →
      (k.same m = true ↔ ¬ ∃ i j, k = .int i ∧ m = .int j ∧ i ≠ j) := by
    intro y hl
    obtain ⟨x, hk, xy⟩ := rounded_of_same kl hl
    obtain ⟨z, hm, zy⟩ := rounded_of_same (same_comm l m ▸ lm) hl
    exact same_of_rounded hk hm (Binary64.same_trans xy (Binary64.same_comm z y ▸ zy))
  cases l with
  | int n =>
      rw [numeric _ rfl]
      refine iff_of_true ?_ (not_merged nofun)
      -- A whole number is equal to no other one.
      rintro ⟨i, j, rfl, rfl, apart⟩
      have hi : i = n := by simpa [same] using kl
      have hj : n = j := by simpa [same] using lm
      exact apart (hi.trans hj)
  | number x =>
      rw [numeric _ rfl]
      simp [Merged]
  | text t =>
      refine iff_of_true ?_ (not_merged nofun)
      cases k with
      | text r =>
          obtain rfl : r = t := beq_iff_eq.mp kl
          exact lm
      | _ => exact nomatch kl
  | bool b =>
      refine iff_of_true ?_ (not_merged nofun)
      cases k with
      | bool a =>
          obtain rfl : a = b := beq_iff_eq.mp kl
          exact lm
      | _ => exact nomatch kl
  | object b =>
      refine iff_of_true ?_ (not_merged nofun)
      cases k with
      | object a =>
          cases m with
          | object c => exact Shared.is_trans kl lm
          | _ => exact nomatch lm
      | _ => exact nomatch kl

/-- What merges is too large for a binary64 number to tell it from its neighbours. -/
theorem eq_of_rounded {i j : Int64} (hi : i.toInt.natAbs ≤ 9007199254740992)
    (hj : j.toInt.natAbs ≤ 9007199254740992)
    (h : (Binary64.ofInt i.toInt).same (.ofInt j.toInt) = true) : i = j := by
  have value := Binary64.units_eq_of_same h
  rw [Binary64.units_ofInt hi, Binary64.units_ofInt hj] at value
  have positive : (Binary64.unit : Int) ≠ 0 :=
    Int.natCast_ne_zero.mpr (Nat.ne_of_gt Binary64.unit_pos)
  exact Int64.toInt.inj (Int.eq_of_mul_eq_mul_right positive value)

end Key

/-- A key read from a value equals itself, and so does no key. -/
theorem sameOption_self {k : Option Key} (h : Key.Readable k) :
    sameOption Key.same k k = true := by
  rw [Key.sameOption_self_eq, Bool.not_eq_true']
  cases k with
  | none => rfl
  | some k =>
      cases k with
      | number x => exact Key.isNaN_of_readable h
      | _ => rfl

theorem sameOption_comm (k l : Option Key) :
    sameOption Key.same k l = sameOption Key.same l k := by
  cases k with
  | none => cases l <;> rfl
  | some k =>
      cases l with
      | none => rfl
      | some l => exact Key.same_comm k l

/-- Absent keys merge nothing: equality of keys goes wrong exactly where it does for keys that are
    there. -/
theorem sameOption_trans_iff {k l m : Option Key} (kl : sameOption Key.same k l = true)
    (lm : sameOption Key.same l m = true) :
    sameOption Key.same k m = true ↔ ¬ Key.Merged k l m := by
  cases l with
  | none =>
      cases k with
      | some _ => exact nomatch kl
      | none =>
          cases m with
          | some _ => exact nomatch lm
          | none => simp [sameOption, Key.Merged]
  | some l =>
      cases k with
      | none => exact nomatch kl
      | some k =>
          cases m with
          | none => exact nomatch lm
          | some m => exact Key.same_trans_iff kl lm

/-! ## Nodes -/

namespace Node

/-- A whole number as key has at most 53 places, so that it is not rounded. -/
def ExactKey (n : Node) : Prop :=
  ∀ i, n.head.key = some (.int i) → i.toInt.natAbs ≤ 9007199254740992

/-- One node may take the place of another exactly if their kinds and keys are the same. -/
theorem patchable_iff (a b : Node) :
    a.patchable b = true ↔
      a.head.kind.same b.head.kind = true ∧ sameOption Key.same a.head.key b.head.key = true := by
  rw [patchable, Bool.and_eq_true]

/-- **AN IDENTITY WITH ONE GAP**. For a node whose key was read from props: it may be updated in
    place of itself; order does not matter; and of two nodes that may each be updated in place of a
    third, one may be updated in place of the other exactly if the third does not merge two whole
    numbers. Whole numbers of up to 53 places are never merged, since rounding takes a whole number
    to the nearest binary64 number, to the even one of two. -/
theorem patchable_identity (a b c : Node) (readable : Key.Readable a.head.key) :
    a.patchable a = true
    ∧ (a.patchable b = true → b.patchable a = true)
    ∧ (a.patchable b = true → b.patchable c = true →
      (a.patchable c = true ↔ ¬ Key.Merged a.head.key b.head.key c.head.key))
    ∧ (a.patchable b = true → b.patchable c = true → a.ExactKey → c.ExactKey →
      a.patchable c = true)
    ∧ ∀ (i : Int64) (y : Binary64),
      ((Binary64.ofInt i.toInt).units - i.toInt * Binary64.unit).natAbs
          ≤ (y.units - i.toInt * Binary64.unit).natAbs
        ∧ (((Binary64.ofInt i.toInt).units - i.toInt * Binary64.unit).natAbs
            = (y.units - i.toInt * Binary64.unit).natAbs →
          y.units ≠ (Binary64.ofInt i.toInt).units →
          (Binary64.ofInt i.toInt).fraction % 2 = 0) := by
  have gap : a.patchable b = true → b.patchable c = true →
      (a.patchable c = true ↔ ¬ Key.Merged a.head.key b.head.key c.head.key) := by
    intro ab bc
    obtain ⟨kindAB, keyAB⟩ := (patchable_iff a b).mp ab
    obtain ⟨kindBC, keyBC⟩ := (patchable_iff b c).mp bc
    rw [patchable_iff, ← sameOption_trans_iff keyAB keyBC]
    exact and_iff_right (Kind.same_trans kindAB kindBC)
  refine ⟨?_, ?_, gap, ?_, ?_⟩
  · exact (patchable_iff a a).mpr ⟨Kind.same_self _, sameOption_self readable⟩
  · intro ab
    rw [patchable, Kind.same_comm, sameOption_comm]
    exact ab
  · intro ab bc exactA exactC
    rw [gap ab bc]
    -- Two whole numbers that the key in the middle merges are rounded to the same number, which
    -- exact ones never are.
    rintro ⟨i, x, j, hi, hx, hj, apart⟩
    obtain ⟨-, keyAB⟩ := (patchable_iff a b).mp ab
    obtain ⟨-, keyBC⟩ := (patchable_iff b c).mp bc
    rw [hi, hx, sameOption, Key.same] at keyAB
    rw [hx, hj, sameOption, Key.same, Binary64.same_comm] at keyBC
    have rounded := Binary64.same_trans keyAB keyBC
    exact apart (Key.eq_of_rounded (exactA i hi) (exactC j hj) rounded)
  · intro i y
    have low := i.le_toInt
    have high := i.toInt_lt
    exact Binary64.ofInt_nearest (by omega) y

/-- A row of a list with a key. -/
def row (key : Value) : Node :=
  ((Scene.initial : Scene Unit).create (.element "li") (some (.single "key" key)) .none).1

/-- `2^53` as a binary64 number. -/
def evenNeighbour : Value := .float ⟨⟨0x4340000000000000⟩, by decide⟩

/-- The three rows of the gap: the test is not transitive. -/
theorem patchable_not_transitive :
    (row (.int 9007199254740992)).patchable (row evenNeighbour) = true
    ∧ (row evenNeighbour).patchable (row (.int 9007199254740993)) = true
    ∧ (row (.int 9007199254740992)).patchable (row (.int 9007199254740993)) = false := by
  decide +kernel

/-- The law at these rows: the middle one merges the keys of the others. -/
theorem patchable_rows :
    Key.Readable (row (.int 9007199254740992)).head.key
    ∧ (row (.int 9007199254740992)).patchable (row (.int 9007199254740992)) = true
    ∧ ((row (.int 9007199254740992)).patchable (row (.int 9007199254740993)) = true ↔
      ¬ Key.Merged (row (.int 9007199254740992)).head.key (row evenNeighbour).head.key
        (row (.int 9007199254740993)).head.key) := by
  have readable : Key.Readable (row (.int 9007199254740992)).head.key :=
    ⟨some (.int 9007199254740992), 0, rfl⟩
  obtain ⟨self, -, gap, -⟩ := patchable_identity (row (.int 9007199254740992))
    (row evenNeighbour) (row (.int 9007199254740993)) readable
  exact ⟨readable, self, gap (by decide +kernel) (by decide +kernel)⟩

end Node

end Vdom
