import Vdom.Proofs.Frame
import Vdom.Proofs.Layout
import Vdom.Proofs.Neutral.Scan
/-!
# Neutral code — template content cannot break out of the generated code

Static content is quoted and every bracket that a writer opens it closes, so the code of a render
function is neutral as soon as what is pasted into it is (`generate_neutral`).

* **`Visit.Tame`** — what a visit pastes is neutral; static content is left out on purpose.
* **`Layout.neutral`** — tame visits are written as neutral code, by induction on the layout.
-/

namespace Vdom.Emit

open Text (Neutral Opens Closes neutral_quote)

/-- What a visit pastes into the code as it stands is neutral: dynamic tags and atoms, names of
    helpers, raw items, and the text of a whole compound. -/
def Visit.Tame (registry : Registry) : Visit → Prop
  | .element _ _ => True
  | .site (.atom a) => a.isStatic = false → Neutral a.content
  | .site (.key a) => a.isStatic = false → Neutral a.content
  | .site _ => True
  | .tag (.name _) => True
  | .tag (.dynamic code) => Neutral code
  | .tag (.symbol helper) => ∀ name ∈ registry.name? helper, Neutral name
  | .raw code => Neutral code
  | .compound parts => ∀ ps, partsPieces registry parts = .ok ps → Neutral (codeOf ps)

/-- The text of a compound is neutral if it cannot be written or is so when written. -/
instance (registry : Registry) (parts : List Part) :
    Decidable (∀ ps, partsPieces registry parts = .ok ps → Neutral (codeOf ps)) :=
  match partsPieces registry parts with
  | .error _ => .isTrue fun _ h => nomatch h
  | .ok qs => decidable_of_iff (Neutral (codeOf qs))
      ⟨fun h _ same => Except.ok.inj same ▸ h, fun h => h qs rfl⟩

instance (registry : Registry) : (v : Visit) → Decidable (v.Tame registry)
  | .element _ _ => .isTrue trivial
  | .site (.atom a) => inferInstanceAs (Decidable (a.isStatic = false → Neutral a.content))
  | .site (.key a) => inferInstanceAs (Decidable (a.isStatic = false → Neutral a.content))
  | .site (.text _ _) | .site (.call _) | .site (.object _ _) | .site (.array _ _) =>
    .isTrue trivial
  | .tag (.name _) => .isTrue trivial
  | .tag (.dynamic code) => inferInstanceAs (Decidable (Neutral code))
  | .tag (.symbol helper) =>
    inferInstanceAs (Decidable (∀ name ∈ registry.name? helper, Neutral name))
  | .raw code => inferInstanceAs (Decidable (Neutral code))
  | .compound parts => inferInstanceAs (Decidable (∀ ps, partsPieces registry parts = .ok ps →
      Neutral (codeOf ps)))

/-! ## Fixed texts -/

theorem opens_square : Opens "[" '[' := by decide

theorem closes_square : Closes "]" '[' := by decide

theorem opens_call : Opens "h(" '(' := by decide

theorem closes_call : Closes ")" '(' := by decide

theorem opens_object : Opens "\x7b " '\x7b' := by decide

theorem closes_object : Closes " \x7d" '\x7b' := by decide

theorem neutral_noProperties : Neutral "\x7b\x7d" := by decide

/-! ## Layouts -/

/-- A static atom is neutral however it is spelled; any other has to be so itself. -/
theorem neutral_atomText {a : Atom} (h : a.isStatic = false → Neutral a.content) :
    Neutral (atomText a) := by
  rw [atomText]
  split
  · exact neutral_quote a.content
  · rename_i dynamic
    exact h (Bool.eq_false_iff.mpr dynamic)

/-- The name of a helper is pasted, so it has to be neutral. -/
theorem neutral_symbol {registry : Registry} {helper : Helper} {ps : List Piece}
    (name : ∀ name ∈ registry.name? helper, Neutral name)
    (h : symbolPieces registry helper = .ok ps) : Neutral (codeOf ps) := by
  rw [symbolPieces, Registry.resolve] at h
  cases hname : registry.name? helper with
  | none => rw [hname] at h; cases h
  | some found =>
      rw [hname] at h
      rw [← Except.ok.inj h]
      show Neutral (found ++ "")
      rw [String.append_empty]
      exact name found hname

/-- Brackets around neutral code. -/
theorem neutral_enclosed {before : List Piece} {inner : Writer} {opening after : String}
    {opener : Char} {registry : Registry} {ps : List Piece}
    (h : Writer.enclosed before inner after registry = .ok ps) (code : codeOf before = opening)
    (opens : Opens opening opener) (closes : Closes after opener)
    (neutral : ∀ qs, inner registry = .ok qs → Neutral (codeOf qs)) : Neutral (codeOf ps) := by
  obtain ⟨qs, hq, rfl⟩ := Writer.enclosed_ok h
  rw [codeOf_append, codeOf_append, codeOf_code, codeOf_nil, String.append_empty, code]
  exact (neutral qs hq).enclosed opens closes

/-- None of the separators has a bracket or a quote. -/
theorem neutral_separators : ∀ text ∈ separators, Neutral text := by decide

/-- **TAME VISITS, NEUTRAL CODE**: whatever else they hold, visits are written as neutral code if
    what they paste is neutral. -/
theorem Layout.neutral {registry : Registry} {vs : List Visit} {w : Writer} (h : Layout vs w) :
    (∀ v ∈ vs, v.Tame registry) → ∀ ps, w registry = .ok ps → Neutral (codeOf ps) := by
  induction h with
  | nothing =>
      intro _ ps hps
      rw [← Except.ok.inj hps]
      rfl
  | separator text member =>
      intro _ ps hps
      rw [← Except.ok.inj hps, codeOf_code, codeOf_nil, String.append_empty]
      exact neutral_separators text member
  | chain _ _ ihw ihx =>
      intro tame ps hps
      obtain ⟨qs, rs, hq, hr, rfl⟩ := Writer.chain_ok hps
      rw [codeOf_append]
      exact (ihw (fun v hv => tame v (List.mem_append_left _ hv)) qs hq).append
        (ihx (fun v hv => tame v (List.mem_append_right _ hv)) rs hr)
  -- Whatever is written around visits comes in pairs of brackets.
  | bracketed _ ih =>
      intro tame ps hps
      exact neutral_enclosed hps rfl opens_square closes_square (ih tame)
  | wrapper _ ih =>
      intro tame ps hps
      exact neutral_enclosed hps rfl opens_call closes_call (ih tame)
  | missing tag => intro _ ps hps; exact nomatch hps
  | element tag _ ih => intro tame; exact ih fun v hv => tame v (List.mem_cons_of_mem _ hv)
  | text content span =>
      intro _ ps hps
      rw [← Except.ok.inj hps, codeOf_spanned]
      exact neutral_quote content
  | atom a =>
      intro tame ps hps
      rw [← Except.ok.inj hps, atomPieces, codeOf_spanned]
      exact neutral_atomText (tame _ List.mem_cons_self)
  | key a =>
      intro tame ps hps
      have key : keyPieces registry (.atom a) = .ok ps := hps
      rw [keyPieces] at key
      split at key
      · rw [← Except.ok.inj key, atomPieces, codeOf_spanned]
        exact neutral_atomText (tame _ List.mem_cons_self)
      -- A computed key is pasted, so it is neutral only because its visit is tame.
      · rename_i dynamic
        have content : Neutral a.content :=
          tame _ List.mem_cons_self (Bool.eq_false_iff.mpr dynamic)
        rw [← Except.ok.inj key, codeOf_append, codeOf_spanned, codeOf_code, codeOf_code,
          codeOf_nil, String.append_empty]
        exact content.enclosed opens_square closes_square
  | tag t =>
      intro tame ps hps
      have self := tame _ List.mem_cons_self
      cases t with
      | name tag =>
          rw [← Except.ok.inj hps, codeOf_code, codeOf_nil, String.append_empty]
          exact neutral_quote tag
      | dynamic code =>
          rw [← Except.ok.inj hps, codeOf_code, codeOf_nil, String.append_empty]
          exact self
      | symbol helper => exact neutral_symbol self hps
  | raw code =>
      intro tame ps hps
      rw [← Except.ok.inj hps, codeOf_code, codeOf_nil, String.append_empty]
      exact tame _ List.mem_cons_self
  | compound parts _ _ => intro tame; exact tame _ List.mem_cons_self
  | call c shape _ ih =>
      intro tame ps hps
      rw [shape] at hps
      refine neutral_enclosed hps ?_ opens_call closes_call
        (ih fun v hv => tame v (List.mem_cons_of_mem _ hv))
      rw [codeOf_append, codeOf_spanned]
      rfl
  | noProperties span =>
      intro _ ps hps
      rw [← Except.ok.inj hps, codeOf_spanned]
      exact neutral_noProperties
  | object properties span shape _ ih =>
      intro tame ps hps
      rw [shape] at hps
      exact neutral_enclosed hps (codeOf_spanned _ span) opens_object closes_object
        (ih fun v hv => tame v (List.mem_cons_of_mem _ hv))
  | array items span shape _ ih =>
      intro tame ps hps
      rw [shape] at hps
      refine neutral_enclosed hps ?_ opens_square closes_square
        (ih fun v hv => tame v (List.mem_cons_of_mem _ hv))
      rw [codeOf_append, codeOf_spanned]
      rfl

/-! ## Render functions -/

/-- The opening of the function leaves one brace open, with either setting of source maps. -/
theorem opens_opening (options : Options) : Opens (opening options) '\x7b' := by
  rw [opening]
  split <;> decide

theorem closes_closing : Closes closing '\x7b' := by decide

/-- The code that binds names is neutral if the names and the runtime global are. -/
theorem neutral_binding {options : Options} {names : List String}
    (global : Neutral options.runtimeGlobalName) (h : ∀ name ∈ names, Neutral name) :
    Neutral (binding options names) := by
  have joined : Neutral (Text.join ", " names) := Text.neutral_join (by decide) names h
  have opens : Opens "const \x7b " '\x7b' := by decide
  have closes : Closes " \x7d = " '\x7b' := by decide
  have after : Neutral ("\n" ++ (Buffer.lineBreak 1 ++ "return ")) := by decide
  have bound : Neutral ("const \x7b " ++ Text.join ", " names ++ " \x7d = ") := by
    rw [String.append_assoc]
    exact joined.enclosed opens closes
  exact bound.append (global.append after)

/-- **NO BREAKING OUT**: the code of a render function is neutral if the runtime global, the names
    of the helpers it refers to and all that it pastes are, whatever its static content. -/
theorem generate_neutral {registry : Registry} {options : Options} {root : Root} {g : Generated}
    (written : generate registry options root = .ok g)
    (global : Neutral options.runtimeGlobalName)
    (names : ∀ helper ∈ boundHelpers root, ∀ name ∈ registry.name? helper, Neutral name)
    (tame : ∀ v ∈ root.visits, v.Tame registry) :
    Neutral g.code := by
  obtain ⟨found, body, hfound, hbody, rfl⟩ := generate_ok written
  -- The line of names opens a brace that only the closing of the function closes, so each half is
  -- looked at alone.
  have bindings : Neutral (binding options (bound found)) := by
    refine neutral_binding global ?_
    intro name hn
    rcases mem_bound.mp hn with rfl | hn
    · decide
    · obtain ⟨helper, hh, hname⟩ := mem_of_mapM_resolve hfound hn
      exact names helper hh name hname
  have returns : Neutral (codeOf body) := by
    refine (layout_returned root.children).neutral ?_ body hbody
    intro v hv
    rcases mem_visitsReturned hv with hv | ⟨rfl, several⟩
    · exact tame v hv
    · exact names Helper.fragment (fragment_mem_boundHelpers several)
  have inner : binding options (bound found) ++ (codeOf body ++ closing)
      = (binding options (bound found) ++ codeOf body) ++ closing := by
    rw [String.append_assoc]
  rw [code_result, codeOf_framed, inner]
  exact (bindings.append returns).enclosed (opens_opening options) closes_closing

/-- Two roots whose static content is full of quotes and brackets, with all kinds of pasted code. -/
def restless : Root :=
  let list : Operand := .array [.raw "[f(\"]\")]", .operand (.atom ⟨"b", false, .stub⟩)] .stub
  let object : Operand := .compound [.raw "\x7b d: ", .text "\"\x7b" .stub, .raw " \x7d"] .stub
  let props : Operand := .object [.mk (.atom ⟨"\"\x7d])", true, .stub⟩) list .stub,
    .mk (.atom ⟨"c[\"(\"]", false, .stub⟩) object .stub] .stub
  { children := [.element "p" [] (.call (.mk (.dynamic "e()") (some props) .absent .stub)) .stub,
      .text "\\\"]\x7d\n(" .stub]
    helpers := [⟨6⟩], source := "", span := .stub }

/-- Brackets and quotes in static content do not show outside of it. -/
theorem restless_neutral :
    ∃ g, generate .initial .standard restless = .ok g ∧ Neutral g.code := by
  obtain ⟨g, written⟩ : ∃ g, generate .initial .standard restless = .ok g := ⟨_, rfl⟩
  exact ⟨g, written, generate_neutral written (by decide) (by decide) (by decide)⟩

end Vdom.Emit
