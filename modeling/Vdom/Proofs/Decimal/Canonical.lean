import Vdom.Proofs.Decimal.Text
/-!
# Canonical numerals — a number is written in one shape

Which shape a number has is decided by its exponent alone: a numeral without an exponent from
`10^-6` up to twenty-one digits, one digit before the point and an exponent with its sign beyond.
In neither does a zero stand where it could be left out.

* **`Numeral.Canonical`** — the shape of a numeral for an exponent.
* **`canonical_plain`**, **`canonical_written`** — the two shapes from their parts.
* **`Placed.canonical`** — each way of writing digits without zeros at their ends has that shape.
* **`text_canonical`** — so the text of every number has it, and zeros have no sign.
-/

namespace Vdom.Json

/-- The shape of a number `d₁.d₂…dₖ × 10^e`. The digits before the point start with a zero only if
    they are one, those behind it do not end in one. Up to `10^20` there is no exponent, beyond
    there is one digit before the point, and the size of the exponent has no zero in front. -/
structure Numeral.Canonical (n : Numeral) (e : Int) : Prop where
  whole : Whole n.whole
  fraction : ∀ ds, n.fraction = some ds → Digits ds ∧ ds.getLast? ≠ some '0'
  plain : -6 ≤ e ∧ e ≤ 20 → n.exponent = none
  exponent : ¬(-6 ≤ e ∧ e ≤ 20) → ∃ d negative size, n.whole = [d] ∧ d ≠ '0'
    ∧ n.exponent = some (negative, size) ∧ (negative = false ↔ 20 < e)
    ∧ Whole size ∧ Nat.ofDigitChars 10 size 0 = e.natAbs

end Vdom.Json

namespace Vdom.Decimal

open Json (Numeral Digits Whole)
open Binary64 (pageLayout)

variable {n : Numeral} {e : Int}

/-- A numeral without an exponent is canonical where numbers are written in full. -/
theorem canonical_plain (whole : Whole n.whole)
    (fraction : ∀ ds, n.fraction = some ds → Digits ds ∧ ds.getLast? ≠ some '0')
    (plain : n.exponent = none) (near : -6 ≤ e ∧ e ≤ 20) : n.Canonical e :=
  ⟨whole, fraction, fun _ => plain, fun far => absurd near far⟩

/-- A single digit, a fraction and an exponent are canonical where numbers are not. -/
theorem canonical_written {d : Char} (digit : Json.isDigit d = true) (other : d ≠ '0')
    (single : n.whole = [d])
    (fraction : ∀ ds, n.fraction = some ds → Digits ds ∧ ds.getLast? ≠ some '0')
    (exponent : n.exponent = written e) (far : 21 ≤ e ∨ e < -6) : n.Canonical e := by
  have whole : Whole n.whole := by
    rw [single]
    refine whole_of_digits (List.cons_ne_nil d []) (List.forall_mem_singleton.mpr digit) ?_
    exact fun zero => other (Option.some.inj zero)
  refine ⟨whole, fraction, fun near => by omega, fun _ => ?_⟩
  refine ⟨d, decide (e < 0), Nat.toDigits 10 e.natAbs, single, other, exponent, ?_,
    Json.whole_digits _, Nat.ofDigitChars_ten_toDigits⟩
  rw [decide_eq_false_iff_not]
  omega

/-- **ONE SHAPE FOR AN EXPONENT**: digits without a zero at either end are written as a canonical
    numeral, wherever the point goes. -/
theorem Placed.canonical {ds : List Char} {point : Int} {cs : List Char}
    (placed : Placed pageLayout ds point cs) (digits : Digits ds) (first : ds.head? ≠ some '0')
    (last : ds.getLast? ≠ some '0') (negative : Bool) :
    ∃ n : Numeral, n.negative = negative ∧ n.body = cs ∧ n.Canonical (point - 1) := by
  obtain ⟨filled, all⟩ := digits
  -- Where the point goes decides the shape, and zeros are put only where they hold a place.
  cases placed with
  | whole ds zeros fits =>
      have short : (ds.length : Int) + zeros ≤ 21 := fits
      have some : 0 < ds.length := List.length_pos_of_ne_nil filled
      exact ⟨⟨negative, ds ++ List.replicate zeros '0', none, none⟩, rfl, rfl,
        canonical_plain (whole_zeros ⟨filled, all⟩ first zeros) nofun rfl ⟨by omega, by omega⟩⟩
  | among front back someFront someBack fits =>
      have short : (front.length : Int) ≤ 21 := fits
      have some : 0 < front.length := List.length_pos_of_ne_nil someFront
      obtain ⟨allFront, allBack⟩ := List.forall_mem_append.mp all
      rw [List.head?_append_of_ne_nil _ someFront] at first
      rw [List.getLast?_append_of_ne_nil _ someBack] at last
      have fraction : ∀ ds, Option.some back = Option.some ds →
          Digits ds ∧ ds.getLast? ≠ Option.some '0' := by
        rintro _ ⟨⟩
        exact ⟨⟨someBack, allBack⟩, last⟩
      exact ⟨⟨negative, front, back, none⟩, rfl, Numeral.body_fraction negative front back,
        canonical_plain (whole_of_digits someFront allFront first) fraction rfl
          ⟨by omega, by omega⟩⟩
  | before ds zeros deep =>
      have near : -6 < -(zeros : Int) := deep
      have fraction : ∀ cs, some (List.replicate zeros '0' ++ ds) = some cs →
          Digits cs ∧ cs.getLast? ≠ some '0' := by
        rintro _ ⟨⟩
        rw [List.getLast?_append_of_ne_nil _ filled]
        exact ⟨digits_after_zeros ⟨filled, all⟩ zeros, last⟩
      exact ⟨⟨negative, ['0'], some (List.replicate zeros '0' ++ ds), none⟩, rfl,
        Numeral.body_fraction negative _ _,
        canonical_plain (Json.whole_digits 0) fraction rfl ⟨by omega, by omega⟩⟩
  | single d e beyond =>
      have digit : Json.isDigit d = true := all d List.mem_cons_self
      have other : d ≠ '0' := fun zero => first (congrArg some zero)
      refine ⟨⟨negative, [d], none, written e⟩, rfl, rfl, ?_⟩
      rw [Int.add_sub_cancel]
      exact canonical_written digit other rfl nofun rfl beyond
  | scientific d rest e more beyond =>
      obtain ⟨digit, others⟩ := List.forall_mem_cons.mp all
      have other : d ≠ '0' := fun zero => first (congrArg some zero)
      rw [List.getLast?_cons_of_ne_nil more] at last
      have fraction : ∀ ds, some rest = some ds → Digits ds ∧ ds.getLast? ≠ some '0' := by
        rintro _ ⟨⟩
        exact ⟨⟨more, others⟩, last⟩
      refine ⟨⟨negative, [d], some rest, written e⟩, rfl, rfl, ?_⟩
      rw [Int.add_sub_cancel]
      exact canonical_written digit other rfl fraction rfl beyond

end Vdom.Decimal

namespace Vdom.Binary64

open Json (Numeral Digits)
open Decimal (shortest)

/-- Any digits without zeros at their ends are laid out as a canonical numeral. -/
theorem laidOut_canonical (x : Binary64) {ds : List Char} (digits : Digits ds)
    (first : ds.head? ≠ some '0') (last : ds.getLast? ≠ some '0') (e : Int) :
    ∃ n : Numeral, x.laidOut ds e = some ((if n.negative then ['-'] else []) ++ n.body)
      ∧ n.negative = x.negative ∧ n.Canonical e := by
  have placed := Decimal.place_placed pageLayout digits.1 (e + 1)
  obtain ⟨n, sign, body, canonical⟩ := placed.canonical digits first last x.negative
  rw [Int.add_sub_cancel] at canonical
  refine ⟨n, ?_, sign, canonical⟩
  rw [laidOut_eq x digits.1 e, sign, body]

/-- **ONE CANONICAL SHAPE**. Digits without a zero at either end are laid out, with any exponent, as
    a canonical numeral for it, behind a minus if the number is negative. The text of a finite
    number other than zero is laid out of digits like this, which round to the number; and all
    zeros have the text `0`. -/
theorem text_canonical :
    (∀ (x : Binary64) (ds : List Char) (e : Int), Digits ds → ds.head? ≠ some '0' →
      ds.getLast? ≠ some '0' →
      ∃ n : Numeral, x.laidOut ds e = some ((if n.negative then ['-'] else []) ++ n.body)
        ∧ n.negative = x.negative ∧ n.Canonical e)
    ∧ (∀ x : Binary64, x.isFinite = true → x.isZero = false →
      Renders (shortest .up x).digits ((shortest .up x).point - 1) x
      ∧ ∃ n : Numeral, x.text.toList = (if n.negative then ['-'] else []) ++ n.body
        ∧ n.negative = x.negative ∧ n.Canonical ((shortest .up x).point - 1))
    ∧ ∀ x : Binary64, x.isZero = true → x.text = "0" := by
  refine ⟨?_, ?_, ?_⟩
  · intro x ds e digits first last
    exact x.laidOut_canonical digits first last e
  · intro x finite nonzero
    have renders := shortest_renders finite nonzero .up
    obtain ⟨n, out, sign, canonical⟩ :=
      x.laidOut_canonical renders.digits renders.first renders.last ((shortest .up x).point - 1)
    rw [text_finite finite nonzero] at out
    exact ⟨renders, n, Option.some.inj out, sign, canonical⟩
  · intro x zero
    -- A zero has the exponent of no infinite pattern.
    have number : x.isNaN = false := by
      have exponent : x.exponent = 0 := (of_decide_eq_true zero).1
      rw [isNaN, exponent]
      rfl
    exact text_zero number zero

/-- Minus `10^21` is the first number that is written with an exponent. -/
theorem minus_sextillion_canonical :
    (⟨0xc44b1ae4d6e2ef50⟩ : Binary64).isFinite = true
    ∧ (⟨0xc44b1ae4d6e2ef50⟩ : Binary64).isZero = false
    ∧ ∃ n : Numeral, ['-', '1', 'e', '+', '2', '1'] = (if n.negative then ['-'] else []) ++ n.body
      ∧ n.negative = true ∧ n.Canonical 21 := by
  have finite : (⟨0xc44b1ae4d6e2ef50⟩ : Binary64).isFinite = true := by decide
  have nonzero : (⟨0xc44b1ae4d6e2ef50⟩ : Binary64).isZero = false := by decide
  obtain ⟨-, shapes, -⟩ := text_canonical
  obtain ⟨-, n, text, sign, canonical⟩ := shapes ⟨0xc44b1ae4d6e2ef50⟩ finite nonzero
  have point : (shortest .up ⟨0xc44b1ae4d6e2ef50⟩).point - 1 = 21 := by decide +kernel
  have written : (⟨0xc44b1ae4d6e2ef50⟩ : Binary64).text.toList
      = ['-', '1', 'e', '+', '2', '1'] := by
    decide +kernel
  rw [point] at canonical
  exact ⟨finite, nonzero, n, written.symm.trans text, sign, canonical⟩

end Vdom.Binary64
