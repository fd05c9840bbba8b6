import Vdom.Proofs.Mappings
/-!
# Settings — options change the frame of the code and nothing else

Options decide whether the function is returned, which global it reads, and whether mappings are
kept. The first two are written in front of a line break that every mapping stands behind, so they
move mappings by bytes and lines but never by columns.

* **`Options.around`** — the code of a render function as a function of its options.
* **`Shifted`** — two mappings that differ by what options put in front of them.
* **`generate_settings`** — the main theorem, about two runs with different options.
-/

namespace Vdom.Emit

namespace Options

/-- The code in front of a function that is returned to a host. -/
def lead (o : Options) : String := if o.isBrowser then "return " else ""

/-- Two texts with what options put in front of the first and between them. -/
def around (o : Options) (before after : String) : String :=
  o.lead ++ before ++ o.runtimeGlobalName ++ after

/-- What stands in front of the rest of the code has no line break, with either setting. -/
theorem count_lead (o : Options) : o.lead.toList.count '\n' = 0 := by
  rw [lead]
  split <;> decide

end Options

/-- Two mappings that are the same but for what two options put in front of them: the bytes of the
    lead and of the runtime global, and the line breaks of the global. -/
structure Shifted (o p : Options) (m n : Mapping) : Prop where
  origin : m.origin = n.origin
  column : m.generated.column = n.generated.column
  offset : (m.generated.offset : Int) - n.generated.offset
    = ((o.lead ++ o.runtimeGlobalName).utf8ByteSize : Int)
      - (p.lead ++ p.runtimeGlobalName).utf8ByteSize
  line : (m.generated.line : Int) - n.generated.line
    = (o.runtimeGlobalName.toList.count '\n' : Int) - p.runtimeGlobalName.toList.count '\n'

/-- **BEHIND A LINE BREAK** a place keeps its column whatever stands in front. -/
theorem endOf_around (o : Options) (before : String) {after : String}
    (broken : '\n' ∈ after.toList) :
    Cursor.endOf (o.around before after)
      = { offset := (o.lead ++ o.runtimeGlobalName).utf8ByteSize
            + (before.utf8ByteSize + after.utf8ByteSize)
          line := o.runtimeGlobalName.toList.count '\n'
            + (1 + before.toList.count '\n' + after.toList.count '\n')
          column := 1 + (after.toList.rtakeWhile (· ≠ '\n')).length } := by
  -- The column is counted from the last break, and that stands in `after`.
  have breaks := o.count_lead
  rw [Options.around, ← Cursor.start_advance, Cursor.advance_append, Cursor.advance_eq_leap _ after,
    Cursor.start_advance, Cursor.leap, if_pos broken]
  simp only [Cursor.endOf, String.utf8ByteSize_append, String.toList_append, List.count_append,
    Cursor.mk.injEq, and_true]
  omega

/-- Behind the same broken text, two codes are shifted by what stands in front of it. -/
theorem shifted_around (o p : Options) (before : String) {after : String}
    (broken : '\n' ∈ after.toList) (origin : Position) :
    Shifted o p ⟨Cursor.endOf (o.around before after), origin⟩
      ⟨Cursor.endOf (p.around before after), origin⟩ := by
  rw [endOf_around o before broken, endOf_around p before broken]
  constructor
  · rfl
  · rfl
  · push_cast
    omega
  · push_cast
    omega

/-! ## Results -/

/-- The code from the function to the runtime global. -/
def head (names : List String) : String :=
  "function render(_ctx) \x7b " ++ Buffer.lineBreak 1
    ++ ("const \x7b " ++ Text.join ", " names ++ " \x7d = ")

/-- The code from the runtime global to a text that is returned. -/
def tail (text : String) : String := "\n" ++ (Buffer.lineBreak 1 ++ "return ") ++ text

/-- The rest of the code starts on a line of its own. -/
theorem broken_tail (text : String) : '\n' ∈ (tail text).toList := by
  rw [tail, String.append_assoc, String.toList_append]
  exact List.mem_append_left _ (by decide)

/-- The frame of the code around a text. -/
theorem opening_binding (o : Options) (names : List String) (text : String) :
    opening o ++ (binding o names ++ text) = o.around (head names) (tail text) := by
  unfold opening binding Options.around Options.lead head tail
  simp only [String.append_assoc]

theorem usesOf_uses (helpers : List Helper) : usesOf (helpers.map .use) = helpers := by
  induction helpers with
  | nil => rfl
  | cons helper rest ih => exact congrArg (helper :: ·) ih

/-- A framed body uses what is bound for it and what it uses itself. -/
theorem usesOf_framed (o : Options) (helpers : List Helper) (names : List String)
    (body : List Piece) : usesOf (framed o helpers names body) = helpers ++ usesOf body := by
  show usesOf (helpers.map .use ++ ([.code (binding o names)] ++ (body ++ [.code closing]))) = _
  rw [usesOf_append, usesOf_append, usesOf_append, usesOf_uses]
  show helpers ++ ([] ++ (usesOf body ++ [])) = _
  rw [List.nil_append, List.append_nil]

/-- The marks of a framed body stand where those of the body do, behind the frame. -/
theorem placesOf_framed (o : Options) (helpers : List Helper) (names : List String)
    (body : List Piece) :
    (placesOf (framed o helpers names body)).map (Place.mapping .start)
      = (placesOf body).map fun p =>
          ⟨Cursor.endOf (o.around (head names) (tail p.before)), p.origin⟩ := by
  -- What is noted as used before the code has no place and moves none.
  have uses : placesOf (helpers.map .use ++ .code (binding o names) :: (body ++ [.code closing]))
      = placesOf (.code (binding o names) :: (body ++ [.code closing])) := by
    rw [placesOf_append, placesOf_uses, codeOf_uses, Place.behind_empty, List.map_id]
    rfl
  rw [framed, placesOf, uses, placesOf, placesOf_append]
  simp only [placesOf, List.map_nil, List.append_nil, List.map_map]
  refine List.map_congr_left ?_
  intro p _
  show (⟨Cursor.start.advance (opening o ++ (binding o names ++ p.before)), p.origin⟩ : Mapping) = _
  rw [Cursor.start_advance, opening_binding]

/-- **THE RESULT BY ITS OPTIONS**: the helpers do not depend on them, the code and every mapping
    only through what is put around the two fixed texts of the frame. -/
theorem result_framed (o : Options) (helpers : List Helper) (names : List String)
    (body : List Piece) :
    ((Buffer.empty o).addAll (framed o helpers names body)).result
      = { code := o.around (head names) (tail (codeOf body ++ closing))
          helpers := ((helpers ++ usesOf body).foldl Helper.Usage.insert .empty).toList
          mappings := if o.sourceMap then (placesOf body).map fun p =>
              ⟨Cursor.endOf (o.around (head names) (tail p.before)), p.origin⟩ else [] } := by
  have code := code_result o (framed o helpers names body)
  rw [codeOf_framed, opening_binding] at code
  have used := Buffer.used_addAll (Buffer.empty o) (framed o helpers names body)
  rw [usesOf_framed] at used
  have mappings := Buffer.mappings_addAll (Buffer.empty o) (framed o helpers names body)
  rw [← placesOf_framed o helpers names body, ← code]
  show Generated.mk _ _ _ = _
  rw [used, mappings]
  rfl

/-! ## Two runs -/

/-- **OPTIONS CHANGE ONLY THE FRAME**: with mappings wanted in both runs or in neither, two runs on
    the same template fail alike, or both succeed. Their codes are then the same two texts with the
    lead and the runtime global of each run around the first, their helpers are the same, and
    their mappings differ by what each run puts in front. -/
theorem generate_settings (registry : Registry) (root : Root) {o p : Options}
    (same : o.sourceMap = p.sourceMap) :
    (∃ f, generate registry o root = .error f ∧ generate registry p root = .error f)
    ∨ ∃ g h before after, generate registry o root = .ok g ∧ generate registry p root = .ok h
      ∧ g.code = o.lead ++ before ++ o.runtimeGlobalName ++ after
      ∧ h.code = p.lead ++ before ++ p.runtimeGlobalName ++ after
      ∧ g.helpers = h.helpers
      ∧ List.Forall₂ (Shifted o p) g.mappings h.mappings := by
  rw [generate_eq, generate_eq]
  cases (boundHelpers root).mapM registry.resolve with
  | error f => exact .inl ⟨f, rfl, rfl⟩
  | ok found =>
      cases returned registry root.children with
      | error f => exact .inl ⟨f, rfl, rfl⟩
      | ok body =>
          -- Names and body are resolved before options are looked at, so both runs share them.
          refine .inr ⟨_, _, head (bound found), tail (codeOf body ++ closing), rfl, rfl, ?_⟩
          rw [result_framed, result_framed]
          refine ⟨rfl, rfl, rfl, ?_⟩
          show List.Forall₂ _ (if o.sourceMap = true then _ else _)
            (if p.sourceMap = true then _ else _)
          rw [same]
          split
          · rw [List.forall₂_map_left_iff, List.forall₂_map_right_iff, List.forall₂_same]
            intro place _
            exact shifted_around o p _ (broken_tail place.before) place.origin
          · exact .nil

/-- A lead, and a global of two lines with a character of three bytes. -/
theorem spread_shifted :
    ∃ g h, generate .initial ⟨true, "R", true⟩ spread = .ok g
      ∧ generate .initial ⟨false, "(a,\n→)", true⟩ spread = .ok h
      ∧ g.helpers = h.helpers
      ∧ List.Forall₂ (Shifted ⟨true, "R", true⟩ ⟨false, "(a,\n→)", true⟩) g.mappings
          h.mappings := by
  obtain ⟨g, written⟩ : ∃ g, generate .initial ⟨true, "R", true⟩ spread = .ok g := ⟨_, rfl⟩
  have alike : (⟨true, "R", true⟩ : Options).sourceMap
      = (⟨false, "(a,\n→)", true⟩ : Options).sourceMap := rfl
  rcases generate_settings .initial spread alike with ⟨f, failed, -⟩ | both
  · rw [written] at failed
    exact nomatch failed
  · obtain ⟨first, second, _, _, hfirst, hsecond, -, -, helpers, mappings⟩ := both
    exact ⟨first, second, hfirst, hsecond, helpers, mappings⟩

end Vdom.Emit
