import Vdom.Proofs.Frame
import Vdom.Proofs.Mappings.Spaced
/-!
# Mappings — every place of the code points back to the template

With mappings wanted, there is one mapping for every site of the emitted tree that stands in the
template, in pre-order, and it sits where the code of that site begins.

* **`Maps`** — a mapping of a site into a code: it splits the code in front of the site.
* **`generate_mappings`** — the main theorem, with the order of mappings.
-/

namespace Vdom.Emit

/-- Whether a mapping is that of a site in a code: it points back to the start of the site, and
    the code splits at it, so that the place is the end of what comes before and the code of the
    site comes next. -/
def Maps (registry : Registry) (code : String) (s : Site) (m : Mapping) : Prop :=
  m.origin = s.span.start ∧
    ∃ before ps after, code = before ++ (codeOf ps ++ after)
      ∧ m.generated = Cursor.endOf before ∧ s.writer registry = .ok ps

variable {registry : Registry}

/-- A mark of a site becomes a mapping of it into the code around the mark. -/
theorem Shows.maps {s : Site} {p : Place} (h : Shows registry s p) {code : String}
    (around : p.before ++ p.after = code) : Maps registry code s (p.mapping .start) := by
  obtain ⟨origin, ps, rest, written, after⟩ := h
  refine ⟨origin, p.before, ps, rest, ?_, ?_, written⟩
  · rw [← around, after]
  · exact Cursor.start_advance p.before

/-- The marks of sites become their mappings. -/
theorem Tracks.maps {sites : List Site} {ps : List Piece} (h : Tracks registry sites ps) :
    List.Forall₂ (Maps registry (codeOf ps)) sites
      ((placesOf ps).map (Place.mapping .start)) := by
  have around : ∀ p ∈ placesOf ps, p.before ++ p.after = codeOf ps :=
    fun p hp => before_append_after hp
  rw [Tracks] at h
  rw [List.forall₂_map_right_iff]
  generalize placesOf ps = places at h around
  induction h with
  | nil => exact .nil
  | cons first _ ih =>
      exact .cons (first.maps (around _ List.mem_cons_self))
        (ih fun p hp => around p (List.mem_cons_of_mem _ hp))

/-! ## Render functions -/

theorem placesOf_uses (helpers : List Helper) : placesOf (helpers.map .use) = [] := by
  induction helpers with
  | nil => rfl
  | cons helper rest ih => exact ih

/-- The frame has no marks: it tracks what the pieces in it track. -/
theorem Tracks.framed {sites : List Site} {body : List Piece} (h : Tracks registry sites body)
    (options : Options) (helpers : List Helper) (names : List String) :
    Tracks registry sites (framed options helpers names body) := by
  have bindings : Tracks registry sites
      ([.code (binding options names)] ++ (body ++ [.code closing])) := h.around rfl closing
  have resolved : Tracks registry sites
      (helpers.map .use ++ ([.code (binding options names)] ++ (body ++ [.code closing]))) :=
    (tracks_silent (placesOf_uses helpers)).append bindings
  exact (tracks_code (opening options)).append resolved

/-- The lines around a body put nothing between its marks, and something behind the last. -/
theorem Spaced.framed {body : List Piece} (h : Spaced body) (options : Options)
    (helpers : List Helper) (names : List String) :
    Spaced (framed options helpers names body) := by
  have bindings : Spaced ([.code (binding options names)] ++ (body ++ [.code closing])) :=
    h.around rfl closing
  have resolved : Spaced
      (helpers.map .use ++ ([.code (binding options names)] ++ (body ++ [.code closing]))) :=
    (spaced_silent (placesOf_uses helpers)).append bindings
  have opened : Spaced [.code (opening options)] := spaced_silent rfl
  exact opened.append resolved

/-- What is returned has the sites of the template: the fragment of several roots is no site. -/
theorem sitesOf_returned (root : Root) : sitesOf (visitsReturned root.children) = root.sites := by
  rw [Root.sites, Root.visits]
  match root.children with
  | [] => rfl
  | [child] => rw [visitsAll, visitsAll, List.append_nil]; rfl
  | first :: second :: rest => rfl

/-- The mappings of a result, if they are wanted. -/
theorem mappings_result {options : Options} (wanted : options.sourceMap = true)
    (ps : List Piece) :
    ((Buffer.empty options).addAll ps).result.mappings
      = (placesOf ps).map (Place.mapping .start) := by
  show ((Buffer.empty options).addAll ps).mappings = _
  rw [Buffer.mappings_addAll]
  show [] ++ (if options.sourceMap = true then _ else []) = _
  rw [if_pos wanted]
  rfl

/-- The offset of a mapping counts the bytes in front of its mark. -/
theorem offset_mapping (p : Place) :
    (p.mapping .start).generated.offset = p.before.utf8ByteSize := by
  show (Cursor.start.advance p.before).offset = _
  rw [Cursor.start_advance]
  rfl

/-- **EXACT AND COMPLETE MAPPINGS**: mappings are those of the sites of the template, one for each,
    in pre-order; their offsets never go back, and go forward unless a dynamic atom is empty; and
    their counters fit a word of 32 bits while the code has at most `2^32 - 2` bytes. -/
theorem generate_mappings {registry : Registry} {options : Options} {root : Root} {g : Generated}
    (written : generate registry options root = .ok g) (wanted : options.sourceMap = true) :
    List.Forall₂ (Maps registry g.code) root.sites g.mappings
    ∧ g.mappings.Pairwise (fun m n => m.generated.offset ≤ n.generated.offset)
    ∧ ((∀ s ∈ root.sites, s.Filled) →
      g.mappings.Pairwise fun m n => m.generated.offset < n.generated.offset)
    ∧ (g.code.utf8ByteSize ≤ UInt32.size - 2 → ∀ m ∈ g.mappings, m.generated.Fits) := by
  obtain ⟨found, body, -, hbody, rfl⟩ := generate_ok written
  have layout := layout_returned root.children
  have tracks := (layout.tracks hbody).framed options (boundHelpers root) (bound found)
  rw [sitesOf_returned] at tracks
  rw [mappings_result wanted, code_result]
  -- Marks and sites agree one by one; what is left to show is about the marks alone.
  have maps := tracks.maps
  refine ⟨maps, ?_, ?_, ?_⟩
  · rw [List.pairwise_map]
    refine (placesOf_sorted _).imp ?_
    intro p q h
    rw [offset_mapping, offset_mapping]
    exact h
  · intro filled
    rw [← sitesOf_returned] at filled
    have spaced := (layout.spaced filled hbody).framed options (boundHelpers root) (bound found)
    rw [List.pairwise_map]
    refine spaced.apart.imp ?_
    intro p q h
    rw [offset_mapping, offset_mapping]
    exact h
  · intro short m hm
    obtain ⟨p, hp, rfl⟩ := List.mem_map.mp hm
    -- What stands before a mark is no longer than the code.
    have split := before_append_after hp
    show (Cursor.start.advance p.before).Fits
    rw [Cursor.start_advance]
    refine Cursor.fits_endOf ?_
    rw [← split, String.utf8ByteSize_append] at short
    exact Nat.le_trans (Nat.le_add_right _ _) short

/-- A call with a computed key, a compound, and a text with a line break. -/
def spread : Root :=
  let span (start stop : UInt32) (source : String) : Span :=
    ⟨⟨start, 1, start + 1⟩, ⟨stop, 1, stop + 1⟩, source⟩
  let value : Operand := .compound [.atom ⟨"é", false, span 7 9 "é"⟩, .raw " + 1"] .stub
  let props : Operand :=
    .object [.mk (.atom ⟨"k", false, span 4 5 "k"⟩) value .stub] (span 3 10 ":k=\"é\"")
  let call : Call := .mk (.name "p") (some props) (.one (.text "a\nb" (span 11 14 "a\nb")))
    (span 0 18 "<p :k=\"é\">a\nb</p>")
  { children := [.element "p" [] (.call call) (span 0 18 "<p :k=\"é\">a\nb</p>")]
    helpers := [], source := "<p :k=\"é\">a\nb</p>", span := .stub }

/-- Every site of the spread template is mapped, each behind the one before it. -/
theorem spread_mapped :
    ∃ g, generate .initial ⟨false, "R", true⟩ spread = .ok g
      ∧ List.Forall₂ (Maps .initial g.code) spread.sites g.mappings
      ∧ g.mappings.Pairwise fun m n => m.generated.offset < n.generated.offset := by
  obtain ⟨g, written⟩ : ∃ g, generate .initial ⟨false, "R", true⟩ spread = .ok g := ⟨_, rfl⟩
  obtain ⟨maps, -, strict, -⟩ := generate_mappings written rfl
  exact ⟨g, written, maps, strict (by decide)⟩

end Vdom.Emit
