import Vdom.Proofs.Frame
/-!
# Wrapping — several roots are a fragment of them

A template of several roots is written as a call of the fragment around them, though no such call
stands in it. An element that makes the call in so many words is written by other means, argument
by argument, and comes to the same.

* **`effect`** — what pieces make of a buffer. How their code is cut does not tell in it.
* **`generate_congr`** — helpers to bind and effects of what is returned decide a render function.
* **`generate_wrapped`** — so a wrapped template is written, and fails, like the one it wraps.
-/

namespace Vdom

namespace Emit

/-- What pieces make of a buffer. -/
def effect (ps : List Piece) (b : Buffer) : Buffer := b.addAll ps

/-- Whatever is written with the same effect makes the same render function. -/
theorem generate_congr {registry : Registry} {root other : Root}
    (binds : boundHelpers root = boundHelpers other)
    (returns : (returned registry root.children).map effect
      = (returned registry other.children).map effect) (options : Options) :
    generate registry options root = generate registry options other := by
  rw [generate_eq, generate_eq, binds]
  cases (boundHelpers other).mapM registry.resolve with
  | error f => rfl
  | ok found =>
      -- Both bodies fail, with one fault, or both are written; a mixed case would make the effects
      -- differ.
      cases hbody : returned registry root.children with
      | error f =>
          cases hcopy : returned registry other.children with
          | error g =>
              rw [hbody, hcopy] at returns
              obtain rfl : f = g := Except.error.inj returns
              rfl
          | ok copy => rw [hbody, hcopy] at returns; exact nomatch returns
      | ok body =>
          cases hcopy : returned registry other.children with
          | error g => rw [hbody, hcopy] at returns; exact nomatch returns
          | ok copy =>
              rw [hbody, hcopy] at returns
              have same : ∀ b : Buffer, b.addAll body = b.addAll copy :=
                congrFun (Except.ok.inj returns)
              show Except.ok _ = Except.ok _
              simp only [framed, Buffer.addAll_cons, Buffer.addAll_append, same]

end Emit

/-! ## The wrapper -/

/-- A template says what another one says, with the fragment made explicit: its only root is an
    element whose plan calls the fragment with all roots of the other, and stands nowhere. -/
structure Root.Wraps (outer inner : Root) : Prop where
  helpers : outer.helpers = inner.helpers ++ [Helper.fragment]
  children : ∃ tag parsed place span, place.isStub = true
    ∧ outer.children = [.element tag parsed
        (.call (.mk (.symbol Helper.fragment) none (.many inner.children) place)) span]

namespace Emit

/-- A wrapped template binds the fragment in any case, so the same helpers in the same order. -/
theorem boundHelpers_wraps {outer inner : Root} (wraps : outer.Wraps inner)
    (several : 1 < inner.children.length) : boundHelpers inner = boundHelpers outer := by
  obtain ⟨helpers, tag, parsed, place, span, -, children⟩ := wraps
  rw [boundHelpers, boundHelpers, if_pos several, helpers, children]
  exact (List.append_nil _).symm

/-- **ARGUMENT BY ARGUMENT**: a call of a wrapper with an array, and no props between them. -/
theorem effect_wrapper (wrapper : List Piece) (runs : List (List Piece)) {place : Span}
    (stub : place.isStub = true) :
    effect (.code nodeFunction :: .code "(" :: wrapper ++ .code ", null, " ::
        (bracketed runs ++ [.code ")"]))
      = effect (Piece.spanned nodeFunction place ++ .code "(" ::
          (commaSeparated (fillGaps [.code "null"] [some wrapper, none, some (bracketed runs)])
            ++ [.code ")"])) := by
  funext b
  rw [Piece.spanned, if_pos stub]
  simp only [effect, fillGaps, commaSeparated, List.cons_append, List.nil_append, List.append_assoc,
    Buffer.addAll_cons, Buffer.addAll_append, Buffer.addAll_nil, Buffer.add, Buffer.put_put]
  rfl

/-- The body of several roots does to a buffer what that of one fragment around them does. -/
theorem returned_wraps (registry : Registry) {outer inner : Root} (wraps : outer.Wraps inner)
    (several : 1 < inner.children.length) :
    (returned registry inner.children).map effect
      = (returned registry outer.children).map effect := by
  obtain ⟨-, tag, parsed, place, span, stub, children⟩ := wraps
  rw [children]
  match inner.children, several with
  | first :: second :: rest, _ =>
      simp only [returned, templatePieces, planPieces, callPieces, tagPieces, propsPieces,
        contentPieces]
      cases symbolPieces registry Helper.fragment with
      | error f => rfl
      | ok wrapper =>
          cases childrenPieces registry (first :: second :: rest) with
          | error f => rfl
          | ok runs => exact congrArg Except.ok (effect_wrapper wrapper runs stub)

/-- **SEVERAL ROOTS ARE A FRAGMENT**. A template of two or more roots and one that wraps them in a
    call of the fragment have the same render function, with the same helpers and mappings, or the
    same fault. -/
theorem generate_wrapped (registry : Registry) (options : Options) {outer inner : Root}
    (several : 1 < inner.children.length) (wraps : outer.Wraps inner) :
    generate registry options inner = generate registry options outer :=
  generate_congr (boundHelpers_wraps wraps several) (returned_wraps registry wraps several) options

/-- A text and a paragraph of it, side by side. -/
def twins : Root :=
  let text : Template := .text "a" ⟨⟨0, 1, 1⟩, ⟨1, 1, 2⟩, "a"⟩
  let whole : Span := ⟨⟨1, 1, 2⟩, ⟨9, 1, 10⟩, "<p>a</p>"⟩
  { children := [text, .element "p" [] (.call (.mk (.name "p") none (.many [text]) whole)) whole]
    helpers := [⟨2⟩], source := "a<p>a</p>", span := .stub }

/-- The two with their fragment. -/
def wrappedTwins : Root :=
  { twins with
    children := [.element "" [] (.call (.mk (.symbol Helper.fragment) none (.many twins.children)
      .stub)) .stub]
    helpers := twins.helpers ++ [Helper.fragment] }

/-- Twins and the fragment around them have the same code and the same mappings. -/
theorem twins_wrapped :
    1 < twins.children.length ∧ wrappedTwins.Wraps twins
    ∧ ∃ g, generate .initial ⟨true, "R", true⟩ twins = .ok g
      ∧ generate .initial ⟨true, "R", true⟩ wrappedTwins = .ok g := by
  have wraps : wrappedTwins.Wraps twins := ⟨rfl, "", [], .stub, .stub, rfl, rfl⟩
  obtain ⟨g, written⟩ : ∃ g, generate .initial ⟨true, "R", true⟩ twins = .ok g := ⟨_, rfl⟩
  exact ⟨by decide, wraps, g, written, generate_wrapped _ _ (by decide) wraps ▸ written⟩

end Emit

end Vdom
