import Vdom.Proofs.Mappings.Tracks
/-!
# Order of marks — marks never go back, and rarely stand still

Two marks stand at the same place only if nothing is written between them. Every site writes
something of its own before its parts, except an empty dynamic atom.

* **`placesOf_sorted`** — marks never go back, whatever writes them.
* **`Spaced`** — code follows every mark before the next one comes.
* **`Layout.spaced`** — what visits write is spaced unless an atom among them is empty.
-/

namespace Vdom.Emit

/-! ## Order of marks -/

/-- Marks never go back. -/
theorem placesOf_sorted (ps : List Piece) :
    (placesOf ps).Pairwise fun p q => p.before.utf8ByteSize ≤ q.before.utf8ByteSize := by
  induction ps with
  | nil => exact .nil
  | cons piece ps ih =>
      cases piece with
      -- A text moves all marks behind it by its own length, and a mark in front is at zero.
      | code text =>
          rw [placesOf, List.pairwise_map]
          refine ih.imp ?_
          intro p q h
          show (text ++ p.before).utf8ByteSize ≤ (text ++ q.before).utf8ByteSize
          rw [String.utf8ByteSize_append, String.utf8ByteSize_append]
          exact Nat.add_le_add_left h _
      | mark origin =>
          rw [placesOf]
          exact .cons (fun _ _ => Nat.zero_le _) ih
      | use helper => exact ih

/-- Marks with code between any two of them, and behind the last. -/
structure Spaced (ps : List Piece) : Prop where
  apart : (placesOf ps).Pairwise fun p q => p.before.utf8ByteSize < q.before.utf8ByteSize
  followed : ∀ p ∈ placesOf ps, p.after ≠ ""

/-- Pieces without marks have none that could be too close. -/
theorem spaced_silent {ps : List Piece} (silent : placesOf ps = []) : Spaced ps := by
  constructor
  · rw [silent]
    exact .nil
  · intro p hp
    rw [silent] at hp
    exact nomatch hp

/-- A mark with code behind it stands before the end of the code. -/
theorem Spaced.before_end {ps : List Piece} (h : Spaced ps) {p : Place} (hp : p ∈ placesOf ps) :
    p.before.utf8ByteSize < (codeOf ps).utf8ByteSize := by
  have behind : 0 < p.after.utf8ByteSize := by
    refine Nat.pos_of_ne_zero ?_
    intro zero
    exact h.followed p hp (String.utf8ByteSize_eq_zero_iff.mp zero)
  rw [← before_append_after hp, String.utf8ByteSize_append]
  omega

/-- Spaced pieces in a row are spaced. -/
theorem Spaced.append {ps qs : List Piece} (first : Spaced ps) (second : Spaced qs) :
    Spaced (ps ++ qs) := by
  constructor
  · rw [placesOf_append, List.pairwise_append, List.pairwise_map, List.pairwise_map]
    refine ⟨first.apart, ?_, ?_⟩
    · refine second.apart.imp ?_
      intro p q h
      show (codeOf ps ++ p.before).utf8ByteSize < (codeOf ps ++ q.before).utf8ByteSize
      rw [String.utf8ByteSize_append, String.utf8ByteSize_append]
      exact Nat.add_lt_add_left h _
    · -- A mark of the first run stands before its end, and those of the second behind it.
      intro p' hp' q' hq'
      obtain ⟨p, hp, rfl⟩ := List.mem_map.mp hp'
      obtain ⟨q, hq, rfl⟩ := List.mem_map.mp hq'
      show p.before.utf8ByteSize < (codeOf ps ++ q.before).utf8ByteSize
      rw [String.utf8ByteSize_append]
      exact Nat.lt_add_right _ (first.before_end hp)
  · intro r hr
    rw [placesOf_append] at hr
    rcases List.mem_append.mp hr with hp' | hq'
    · obtain ⟨p, hp, rfl⟩ := List.mem_map.mp hp'
      intro empty
      exact first.followed p hp (String.append_eq_empty_iff.mp empty).1
    · obtain ⟨q, hq, rfl⟩ := List.mem_map.mp hq'
      exact second.followed q hq

/-- A text before and one after put no marks closer together. -/
theorem Spaced.around {before ps : List Piece} (silent : placesOf before = [])
    (inner : Spaced ps) (after : String) : Spaced (before ++ (ps ++ [.code after])) :=
  (spaced_silent silent).append (inner.append (spaced_silent rfl))

/-- A mark at the beginning is spaced if code follows it. -/
theorem spaced_spanned {text : String} {span : Span} {rest : List Piece}
    (silent : placesOf rest = []) (follows : span.isStub = false → text ++ codeOf rest ≠ "") :
    Spaced (Piece.spanned text span ++ rest) := by
  cases stub : span.isStub with
  | true =>
      refine spaced_silent ?_
      rw [placesOf_spanned, stub, silent]
      rfl
  | false =>
      -- The mark of the span is the only one, in front of everything.
      have only : placesOf (Piece.spanned text span ++ rest)
          = [⟨"", span.start, text ++ codeOf rest⟩] := by
        rw [placesOf_spanned, stub, silent]
        rfl
      constructor
      · rw [only]
        exact List.pairwise_singleton _ _
      · intro p hp
        rw [only] at hp
        rw [List.mem_singleton.mp hp]
        exact follows stub

/-- A single mark is spaced if its own text follows it. -/
theorem spaced_alone {text : String} {span : Span} (follows : span.isStub = false → text ≠ "") :
    Spaced (Piece.spanned text span) := by
  have last : Piece.spanned text span = Piece.spanned text span ++ [] := by
    rw [List.append_nil]
  rw [last]
  refine spaced_spanned rfl ?_
  intro stub
  rw [codeOf_nil, String.append_empty]
  exact follows stub

/-! ## Sites that write something of their own -/

/-- Whether a site is not an empty dynamic atom. -/
def Site.Filled : Site → Prop
  | .atom a => a.isStatic = false → a.content ≠ ""
  | _ => True

instance : (s : Site) → Decidable s.Filled
  | .atom a => inferInstanceAs (Decidable (a.isStatic = false → a.content ≠ ""))
  | .text _ _ | .key _ | .call _ | .object _ _ | .array _ _ => .isTrue trivial

theorem mem_sitesOf_site {s : Site} (stub : s.span.isStub = false) (vs : List Visit) :
    s ∈ sitesOf (.site s :: vs) := by
  rw [sitesOf_site, Site.isMapped, stub]
  exact List.mem_append_left _ (List.mem_singleton.mpr rfl)

theorem mem_sitesOf_cons {s : Site} {vs : List Visit} (h : s ∈ sitesOf vs) (v : Visit) :
    s ∈ sitesOf (v :: vs) := by
  rw [← List.singleton_append, sitesOf_append]
  exact List.mem_append_right _ h

/-- A quoted text has at least its quotes. -/
theorem quote_ne_empty (s : String) : quote s ≠ "" := by
  intro h
  have chars : (quote s).toList = [] := String.toList_eq_nil_iff.mpr h
  rw [quote, String.toList_ofList] at chars
  exact nomatch chars

/-- What starts with a text that is not empty is not empty. -/
theorem append_ne_empty {s : String} (h : s ≠ "") (t : String) : s ++ t ≠ "" := by
  intro empty
  exact h (String.append_eq_empty_iff.mp empty).1

/-- An atom that is pasted with a mark has to have a text; a static one has quotes. -/
theorem spaced_atom {a : Atom}
    (filled : a.span.isStub = false → a.isStatic = false → a.content ≠ "") :
    Spaced (atomPieces a) := by
  rw [atomPieces]
  refine spaced_alone ?_
  intro stub
  rw [atomText]
  split
  · exact quote_ne_empty a.content
  · rename_i dynamic
    exact filled stub (Bool.eq_false_iff.mpr dynamic)

variable {registry : Registry}

/-- **NO MARK STANDS STILL** unless an atom is empty: every other site writes something of its own
    before its parts. By induction on the layout. -/
theorem Layout.spaced {vs : List Visit} {w : Writer} (h : Layout vs w) :
    (∀ s ∈ sitesOf vs, s.Filled) → ∀ {ps : List Piece}, w registry = .ok ps → Spaced ps := by
  induction h with
  | nothing =>
      intro _ ps hps
      rw [← Except.ok.inj hps]
      exact spaced_silent rfl
  | separator text _ =>
      intro _ ps hps
      rw [← Except.ok.inj hps]
      exact spaced_silent rfl
  | chain _ _ ihw ihx =>
      intro filled ps hps
      obtain ⟨qs, rs, hq, hr, rfl⟩ := Writer.chain_ok hps
      rw [sitesOf_append] at filled
      exact (ihw (fun s hs => filled s (List.mem_append_left _ hs)) hq).append
        (ihx (fun s hs => filled s (List.mem_append_right _ hs)) hr)
  | bracketed _ ih =>
      intro filled ps hps
      obtain ⟨qs, hq, rfl⟩ := Writer.enclosed_ok hps
      exact (ih filled hq).around rfl "]"
  | wrapper _ ih =>
      intro filled ps hps
      obtain ⟨qs, hq, rfl⟩ := Writer.enclosed_ok hps
      exact (ih filled hq).around rfl ")"
  | missing tag => intro _ ps hps; cases hps
  | element tag _ ih => intro filled ps hps; exact ih filled hps
  | text content span =>
      intro _ ps hps
      rw [← Except.ok.inj hps]
      exact spaced_alone fun _ => quote_ne_empty content
  | atom a =>
      intro filled ps hps
      rw [← Except.ok.inj hps]
      refine spaced_atom ?_
      intro stub
      exact filled (.atom a) (mem_sitesOf_site (s := .atom a) stub [])
  | key a =>
      intro _ ps hps
      have key : keyPieces registry (.atom a) = .ok ps := hps
      rw [keyPieces] at key
      split at key
      · rename_i static
        rw [← Except.ok.inj key]
        refine spaced_atom ?_
        intro _ dynamic
        rw [static] at dynamic
        exact Bool.noConfusion dynamic
      · rw [← Except.ok.inj key]
        exact spaced_spanned rfl fun _ => append_ne_empty (by decide) _
  | tag t =>
      intro _ ps hps
      exact spaced_silent (placesOf_tag hps)
  | raw code =>
      intro _ ps hps
      rw [← Except.ok.inj hps]
      exact spaced_silent rfl
  | compound parts _ ih =>
      intro filled ps hps
      rw [sitesOf_compound] at filled
      exact ih filled hps
  | call c shape _ ih =>
      intro filled ps hps
      rw [shape] at hps
      obtain ⟨qs, hq, rfl⟩ := Writer.enclosed_ok hps
      have parts := ih (fun s hs => filled s (mem_sitesOf_cons hs _)) hq
      refine Spaced.append ?_ (parts.append (spaced_silent rfl))
      exact spaced_spanned rfl fun _ => append_ne_empty (by decide) _
  | noProperties span =>
      intro _ ps hps
      rw [← Except.ok.inj hps]
      exact spaced_alone fun _ => by decide
  | object properties span shape _ ih =>
      intro filled ps hps
      rw [shape] at hps
      obtain ⟨qs, hq, rfl⟩ := Writer.enclosed_ok hps
      have parts := ih (fun s hs => filled s (mem_sitesOf_cons hs _)) hq
      refine Spaced.append ?_ (parts.append (spaced_silent rfl))
      exact spaced_alone fun _ => by decide
  | array items span shape _ ih =>
      intro filled ps hps
      rw [shape] at hps
      obtain ⟨qs, hq, rfl⟩ := Writer.enclosed_ok hps
      have parts := ih (fun s hs => filled s (mem_sitesOf_cons hs _)) hq
      refine Spaced.append ?_ (parts.append (spaced_silent rfl))
      -- An array marks the place of its bracket and writes nothing else in front of it.
      exact spaced_spanned rfl fun _ => by decide

end Vdom.Emit
