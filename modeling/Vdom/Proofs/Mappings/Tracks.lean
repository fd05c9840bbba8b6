import Mathlib.Data.List.Forall2
import Vdom.Proofs.Buffer
import Vdom.Proofs.Layout
/-!
# Marks of sites — what is marked, and where

A site that stands in the template marks the place where its code begins, and nothing else leaves
a mark.

* **`sitesOf`** — the sites of visits that are mapped: all but stubs, those inside compounds
  included.
* **`Shows`** — a mark points to the start of a site, and the code of the site follows it.
* **`Tracks`** — the marks among pieces are those of a list of sites; both grow together.
* **`Layout.tracks`** — what visits write tracks their sites.
-/

namespace Vdom.Emit

/-! ## Sites -/

/-- Whether a site stands in the template. -/
def Site.isMapped (s : Site) : Bool := !s.span.isStub

/-- The site that a fragment is, if it is one. -/
def Fragment.sites : Fragment → List Site
  | .text content span => [.text content span]
  | .atom a => [.atom a]
  | _ => []

/-- The sites of a visit; those of a compound are those of its fragments in place. -/
def Visit.sites : Visit → List Site
  | .element _ _ => []
  | .site s => [s]
  | .tag _ => []
  | .raw _ => []
  | .compound parts => (fragmentsOf parts).flatMap Fragment.sites

/-- The sites of visits that stand in the template. -/
def sitesOf (vs : List Visit) : List Site := (vs.flatMap Visit.sites).filter Site.isMapped

theorem sitesOf_append (vs us : List Visit) : sitesOf (vs ++ us) = sitesOf vs ++ sitesOf us := by
  rw [sitesOf, List.flatMap_append, List.filter_append]
  rfl

/-- A visited site counts if it is mapped. -/
theorem sitesOf_site (s : Site) (vs : List Visit) :
    sitesOf (.site s :: vs) = (if s.isMapped then [s] else []) ++ sitesOf vs := by
  rw [sitesOf, List.flatMap_cons, List.filter_append]
  show List.filter Site.isMapped [s] ++ _ = _
  rw [List.filter_singleton, Bool.cond_eq_ite]
  rfl

/-- A compound has the sites that its fragments would have outside. -/
theorem sitesOf_compound (parts : List Part) :
    sitesOf [.compound parts] = sitesOf ((fragmentsOf parts).map Fragment.visit) := by
  have same : ((fragmentsOf parts).map Fragment.visit).flatMap Visit.sites
      = (fragmentsOf parts).flatMap Fragment.sites := by
    rw [List.flatMap_map]
    refine List.flatMap_congr ?_
    intro fragment _
    cases fragment <;> rfl
  rw [sitesOf, sitesOf, List.flatMap_singleton, same]
  rfl

end Vdom.Emit

namespace Vdom

/-- The sites of a template that are mapped, in pre-order. -/
def Root.sites (root : Root) : List Emit.Site := Emit.sitesOf root.visits

end Vdom

namespace Vdom.Emit

/-! ## Marks of sites -/

/-- Whether a mark is that of a site: it points to the start of the site, and the code of the
    site follows it. -/
def Shows (registry : Registry) (s : Site) (p : Place) : Prop :=
  p.origin = s.span.start ∧
    ∃ ps rest, s.writer registry = .ok ps ∧ p.after = codeOf ps ++ rest

/-- Whether the marks among pieces are those of sites, in order. -/
def Tracks (registry : Registry) (sites : List Site) (ps : List Piece) : Prop :=
  List.Forall₂ (Shows registry) sites (placesOf ps)

variable {registry : Registry}

/-- A place shows its site whatever text is written behind it. -/
theorem Shows.ahead {s : Site} {p : Place} (h : Shows registry s p) (text : String) :
    Shows registry s (p.ahead text) := by
  obtain ⟨origin, ps, rest, written, after⟩ := h
  refine ⟨origin, ps, rest ++ text, written, ?_⟩
  show p.after ++ text = codeOf ps ++ (rest ++ text)
  rw [after, String.append_assoc]

theorem Tracks.append {ss ts : List Site} {ps qs : List Piece} (first : Tracks registry ss ps)
    (second : Tracks registry ts qs) : Tracks registry (ss ++ ts) (ps ++ qs) := by
  rw [Tracks, placesOf_append]
  refine List.rel_append ?_ ?_
  · rw [List.forall₂_map_right_iff]
    exact first.imp fun _ _ h => h.ahead _
  · rw [List.forall₂_map_right_iff]
    exact second

/-- Pieces without marks track nothing. -/
theorem tracks_silent {ps : List Piece} (silent : placesOf ps = []) : Tracks registry [] ps := by
  rw [Tracks, silent]
  exact .nil

theorem tracks_code (text : String) : Tracks registry [] [.code text] := tracks_silent rfl

/-- A text at the end tracks nothing and disturbs no mark. -/
theorem Tracks.ended {ss : List Site} {ps : List Piece} (inner : Tracks registry ss ps)
    (after : String) : Tracks registry ss (ps ++ [.code after]) := by
  have ended := inner.append (tracks_code after)
  rw [List.append_nil] at ended
  exact ended

/-- Code around pieces adds no mark. -/
theorem Tracks.around {ss : List Site} {before ps : List Piece} (silent : placesOf before = [])
    (inner : Tracks registry ss ps) (after : String) :
    Tracks registry ss (before ++ (ps ++ [.code after])) :=
  (tracks_silent silent).append (inner.ended after)

/-- A text of a span is one place, unless the span is a stub. -/
theorem placesOf_spanned (text : String) (span : Span) (rest : List Piece) :
    placesOf (Piece.spanned text span ++ rest)
      = (if span.isStub then [] else [⟨"", span.start, text ++ codeOf rest⟩])
        ++ (placesOf rest).map (Place.behind text) := by
  rw [Piece.spanned]
  split
  · rfl
  · rfl

/-- **A SITE MARKS ITS OWN BEGINNING**, unless it is a stub, and the marks inside it follow. -/
theorem tracks_site {s : Site} {text : String} {rest : List Piece} {vs : List Visit}
    (written : s.writer registry = .ok (Piece.spanned text s.span ++ rest))
    (inner : Tracks registry (sitesOf vs) rest) :
    Tracks registry (sitesOf (.site s :: vs)) (Piece.spanned text s.span ++ rest) := by
  have shifted : List.Forall₂ (Shows registry) (sitesOf vs)
      ((placesOf rest).map (Place.behind text)) := by
    rw [List.forall₂_map_right_iff]
    exact inner
  rw [Tracks, placesOf_spanned, sitesOf_site, Site.isMapped]
  refine List.rel_append ?_ shifted
  -- A stub is no mapped site and leaves no mark, so both lists start with the same head or none.
  cases stub : s.span.isStub with
  | true => exact .nil
  | false =>
      refine .cons ⟨rfl, _, "", written, ?_⟩ .nil
      rw [codeOf_append, codeOf_spanned, String.append_empty]

/-- A site that is a single text. -/
theorem tracks_alone {s : Site} {text : String}
    (written : s.writer registry = .ok (Piece.spanned text s.span)) :
    Tracks registry (sitesOf [.site s]) (Piece.spanned text s.span) := by
  have last : Piece.spanned text s.span = Piece.spanned text s.span ++ [] := by
    rw [List.append_nil]
  rw [last] at written ⊢
  exact tracks_site written (tracks_silent rfl)

/-- Names of helpers are written without a mark. -/
theorem placesOf_symbol {helper : Helper} {ps : List Piece}
    (h : symbolPieces registry helper = .ok ps) : placesOf ps = [] := by
  rw [symbolPieces] at h
  cases hname : registry.resolve helper with
  | error f => rw [hname] at h; exact nomatch h
  | ok name =>
      rw [hname] at h
      rw [← Except.ok.inj h]
      rfl

theorem placesOf_tag {t : Tag} {ps : List Piece} (h : tagPieces registry t = .ok ps) :
    placesOf ps = [] := by
  cases t with
  | name tag => rw [← Except.ok.inj h]; rfl
  | dynamic code => rw [← Except.ok.inj h]; rfl
  | symbol helper => exact placesOf_symbol h

/-- **MARKS ARE THE SITES OF THE VISITS**, by induction on the layout. -/
theorem Layout.tracks {vs : List Visit} {w : Writer} (h : Layout vs w) :
    ∀ {ps : List Piece}, w registry = .ok ps → Tracks registry (sitesOf vs) ps := by
  induction h with
  | nothing =>
      intro ps hps
      rw [← Except.ok.inj hps]
      exact .nil
  | separator text _ =>
      intro ps hps
      rw [← Except.ok.inj hps]
      exact tracks_code text
  | chain _ _ ihw ihx =>
      intro ps hps
      obtain ⟨qs, rs, hq, hr, rfl⟩ := Writer.chain_ok hps
      rw [sitesOf_append]
      exact (ihw hq).append (ihx hr)
  | bracketed _ ih =>
      intro ps hps
      obtain ⟨qs, hq, rfl⟩ := Writer.enclosed_ok hps
      exact (ih hq).around rfl "]"
  | wrapper _ ih =>
      intro ps hps
      obtain ⟨qs, hq, rfl⟩ := Writer.enclosed_ok hps
      exact (ih hq).around rfl ")"
  | missing tag => intro ps hps; exact nomatch hps
  | element tag _ ih => intro ps hps; exact ih hps
  -- A site without sites inside is the one mark of its pieces.
  | text content span =>
      intro ps hps
      rw [← Except.ok.inj hps]
      exact tracks_alone (s := .text content span) rfl
  | atom a =>
      intro ps hps
      rw [← Except.ok.inj hps]
      exact tracks_alone (s := .atom a) rfl
  | key a =>
      intro ps hps
      have key : keyPieces registry (.atom a) = .ok ps := hps
      rw [keyPieces] at key
      split at key
      · rw [← Except.ok.inj key] at hps ⊢
        exact tracks_alone (s := .key a) hps
      · rw [← Except.ok.inj key] at hps ⊢
        exact tracks_site (s := .key a) hps (tracks_silent rfl)
  | tag t =>
      intro ps hps
      exact tracks_silent (placesOf_tag hps)
  | raw code =>
      intro ps hps
      rw [← Except.ok.inj hps]
      exact tracks_code code
  | compound parts _ ih =>
      intro ps hps
      rw [sitesOf_compound]
      exact ih hps
  -- A site with others inside marks its own place first, in front of theirs.
  | call c shape _ ih =>
      intro ps hps
      have written := hps
      rw [shape] at hps
      obtain ⟨qs, hq, rfl⟩ := Writer.enclosed_ok hps
      rw [List.append_assoc] at written ⊢
      exact tracks_site (s := .call c) written ((ih hq).around rfl ")")
  | noProperties span =>
      intro ps hps
      rw [← Except.ok.inj hps]
      exact tracks_alone (s := .object [] span) rfl
  | object properties span shape _ ih =>
      intro ps hps
      have written := hps
      rw [shape] at hps
      obtain ⟨qs, hq, rfl⟩ := Writer.enclosed_ok hps
      exact tracks_site (s := .object properties span) written ((ih hq).ended " \x7d")
  | array items span shape _ ih =>
      intro ps hps
      have written := hps
      rw [shape] at hps
      obtain ⟨qs, hq, rfl⟩ := Writer.enclosed_ok hps
      rw [List.append_assoc] at written ⊢
      exact tracks_site (s := .array items span) written ((ih hq).around rfl "]")

end Vdom.Emit
