import Mathlib.Data.List.DropRight
import Vdom.Emit.Buffer
/-!
# The accounts of a buffer — what a run of pieces leaves behind

A buffer keeps its accounts while pieces are appended. Here each account is read off the pieces
alone, so that a statement about a finished buffer becomes a statement about a list of pieces.

* **`codeOf`** — the code among pieces; `Buffer.code_addAll` says it is what they append.
* **`placesOf`** — the marks among pieces, each between the code before it and the code after it;
  `Buffer.mappings_addAll` says they are the mappings that pieces append.
* **`usesOf`** — the helpers used among pieces; `Buffer.used_addAll` says they are what pieces add
  to the set of a buffer.
* **`Cursor.endOf`** — the place after a text, read off the finished text; the incremental cursor
  of a buffer agrees with it (`Buffer.cursor_addAll`).
* **`Cursor.leap`** — the same place from the place before the text and the text's own length, line
  breaks and last line.
-/

namespace Vdom.Emit

/-! ## Code -/

/-- The code among pieces. -/
def codeOf : List Piece → String
  | [] => ""
  | .code text :: rest => text ++ codeOf rest
  | .mark _ :: rest => codeOf rest
  | .use _ :: rest => codeOf rest

@[simp] theorem codeOf_nil : codeOf [] = "" := rfl

@[simp] theorem codeOf_code (text : String) (rest : List Piece) :
    codeOf (.code text :: rest) = text ++ codeOf rest := rfl

@[simp] theorem codeOf_mark (origin : Position) (rest : List Piece) :
    codeOf (.mark origin :: rest) = codeOf rest := rfl

@[simp] theorem codeOf_use (helper : Helper) (rest : List Piece) :
    codeOf (.use helper :: rest) = codeOf rest := rfl

@[simp] theorem codeOf_append (ps qs : List Piece) :
    codeOf (ps ++ qs) = codeOf ps ++ codeOf qs := by
  induction ps with
  | nil => rw [List.nil_append, codeOf_nil, String.empty_append]
  | cons p ps ih =>
      rw [List.cons_append]
      cases p with
      | code text => rw [codeOf_code, codeOf_code, ih, String.append_assoc]
      | mark origin => rw [codeOf_mark, codeOf_mark, ih]
      | use helper => rw [codeOf_use, codeOf_use, ih]

/-- A mark leaves no trace in the code. -/
@[simp] theorem codeOf_spanned (text : String) (span : Span) :
    codeOf (Piece.spanned text span) = text := by
  rw [Piece.spanned]
  split
  · rw [codeOf_code, codeOf_nil, String.append_empty]
  · rw [codeOf_mark, codeOf_code, codeOf_nil, String.append_empty]

namespace Buffer

/-- Pieces append their code and leave the code before it alone. -/
theorem code_addAll (b : Buffer) (ps : List Piece) :
    (b.addAll ps).code = b.code ++ codeOf ps := by
  induction ps generalizing b with
  | nil => rw [addAll_nil, codeOf_nil, String.append_empty]
  | cons p ps ih =>
      rw [addAll_cons, ih]
      cases p with
      | code text =>
          show b.code ++ text ++ codeOf ps = b.code ++ (text ++ codeOf ps)
          rw [String.append_assoc]
      | mark origin =>
          show (b.mark origin).code ++ codeOf ps = b.code ++ codeOf ps
          rw [mark]
          split <;> rfl
      | use helper => rfl

@[simp] theorem options_add (b : Buffer) (p : Piece) : (b.add p).options = b.options := by
  cases p with
  | code text => rfl
  | mark origin =>
      rw [add, mark]
      split <;> rfl
  | use helper => rfl

/-- Pieces never change the options. -/
@[simp] theorem options_addAll (b : Buffer) (ps : List Piece) :
    (b.addAll ps).options = b.options := by
  induction ps generalizing b with
  | nil => rfl
  | cons p ps ih => rw [addAll_cons, ih, options_add]

end Buffer

/-! ## Cursors -/

namespace Cursor

/-- The place after a text, read off the text as a whole: its bytes, one more than its line
    breaks, and one more than the characters after the last of them. -/
def endOf (s : String) : Cursor :=
  { offset := s.utf8ByteSize
    line := 1 + s.toList.count '\n'
    column := 1 + (s.toList.rtakeWhile (· ≠ '\n')).length }

/-- One character more moves the end of a text by one step. -/
theorem endOf_push (s : String) (c : Char) : endOf (s.push c) = (endOf s).step c := by
  rw [endOf, step, String.utf8ByteSize_push, String.toList_push, List.rtakeWhile_concat,
    List.count_append]
  -- Only a line break is counted, and only a line break empties the last line.
  by_cases h : c = '\n'
  · subst h
    simp [endOf, Nat.add_assoc]
  · simp [endOf, h, Nat.add_assoc]

/-- Behind one character more, a cursor is one step further. -/
theorem advance_push (p : Cursor) (s : String) (c : Char) :
    p.advance (s.push c) = (p.advance s).step c := by
  rw [String.push_eq_append, advance_append, advance, String.toList_singleton]
  rfl

/-- **EXACT POSITIONS**: counting on from the start, character by character, gives the place that
    the whole text has. -/
theorem start_advance (s : String) : start.advance s = endOf s := by
  induction s using String.push_induction with
  | empty => rfl
  | push s c ih => rw [advance_push, endOf_push, ih]

/-- The place after a text, from its bytes, its line breaks and its last line: the column starts
    anew behind a line break, and without one it goes on by the characters of the text. -/
def leap (p : Cursor) (s : String) : Cursor :=
  { offset := p.offset + s.utf8ByteSize
    line := p.line + s.toList.count '\n'
    column := if '\n' ∈ s.toList then 1 + (s.toList.rtakeWhile (· ≠ '\n')).length
      else p.column + s.toList.length }

/-- The rule by the last line break, too, can be applied character by character. -/
theorem leap_push (p : Cursor) (s : String) (c : Char) : p.leap (s.push c) = (p.leap s).step c := by
  rw [leap, step, String.utf8ByteSize_push, String.toList_push, List.rtakeWhile_concat,
    List.count_append]
  -- Behind a line break the last line is empty; any other character lengthens it.
  by_cases h : c = '\n'
  · subst h
    simp [leap, Nat.add_assoc]
  · by_cases broken : '\n' ∈ s.toList
    · simp [leap, h, broken, Nat.add_assoc]
    · simp [leap, h, broken, Ne.symm h, Nat.add_assoc]

/-- **WHOLE TEXTS AT ONCE**: counting on character by character and moving by a whole text agree. -/
theorem advance_eq_leap (p : Cursor) (s : String) : p.advance s = p.leap s := by
  induction s using String.push_induction with
  | empty => simp [leap]
  | push s c ih => rw [advance_push, leap_push, ih]

/-- A cursor whose counters fit a machine word of 32 bits. -/
def Fits (p : Cursor) : Prop :=
  p.offset < UInt32.size ∧ p.line < UInt32.size ∧ p.column < UInt32.size

/-- Every character has at least one byte. -/
theorem length_le_utf8ByteSize (s : String) : s.toList.length ≤ s.utf8ByteSize := by
  induction s using String.push_induction with
  | empty => exact Nat.zero_le _
  | push s c ih =>
      rw [String.toList_push, String.utf8ByteSize_push, List.length_append]
      exact Nat.add_le_add ih c.utf8Size_pos

/-- No counter overflows while the text has at most `2^32 - 2` bytes. -/
theorem fits_endOf {s : String} (short : s.utf8ByteSize ≤ UInt32.size - 2) : (endOf s).Fits := by
  have room : s.utf8ByteSize + 2 ≤ UInt32.size := Nat.add_le_of_le_sub (by decide) short
  have chars := length_le_utf8ByteSize s
  have breaks : s.toList.count '\n' ≤ s.toList.length := List.count_le_length
  have last : (s.toList.rtakeWhile (· ≠ '\n')).length ≤ s.toList.length :=
    (List.rtakeWhile_suffix _ _).length_le
  refine ⟨?_, ?_, ?_⟩
  · show s.utf8ByteSize < UInt32.size
    omega
  · show 1 + s.toList.count '\n' < UInt32.size
    omega
  · show 1 + (s.toList.rtakeWhile (· ≠ '\n')).length < UInt32.size
    omega

end Cursor

namespace Buffer

/-- Pieces move the cursor over their code. -/
theorem cursor_addAll (b : Buffer) (ps : List Piece) :
    (b.addAll ps).cursor = b.cursor.advance (codeOf ps) := by
  induction ps generalizing b with
  | nil => rfl
  | cons p ps ih =>
      rw [addAll_cons, ih]
      cases p with
      | code text =>
          show (b.cursor.advance text).advance (codeOf ps) = b.cursor.advance (text ++ codeOf ps)
          rw [Cursor.advance_append]
      | mark origin =>
          rw [codeOf_mark, add, mark]
          split <;> rfl
      | use helper => rfl

/-- From an empty buffer on, the cursor is the end of the code. -/
theorem cursor_empty_addAll (options : Options) (ps : List Piece) :
    ((empty options).addAll ps).cursor = Cursor.endOf ((empty options).addAll ps).code := by
  rw [cursor_addAll, code_addAll, ← Cursor.start_advance]
  show Cursor.start.advance (codeOf ps) = Cursor.start.advance ("" ++ codeOf ps)
  rw [String.empty_append]

/-- No counter overflows on the way to a code of at most `2^32 - 2` bytes. -/
theorem fits_on_the_way {options : Options} {ps qs : List Piece} (h : qs <+: ps)
    (short : ((empty options).addAll ps).code.utf8ByteSize ≤ UInt32.size - 2) :
    ((empty options).addAll qs).cursor.Fits := by
  obtain ⟨rest, rfl⟩ := h
  rw [addAll_append, code_addAll, String.utf8ByteSize_append] at short
  rw [cursor_empty_addAll]
  exact Cursor.fits_endOf (Nat.le_trans (Nat.le_add_right _ _) short)

end Buffer

/-! ## Marks -/

/-- A mark between the code before it and the code after it. -/
structure Place where
  before : String
  origin : Position
  after : String

namespace Place

/-- The same mark with more code in front. -/
def behind (text : String) (p : Place) : Place :=
  { p with before := text ++ p.before }

/-- The same mark with more code at the end. -/
def ahead (text : String) (p : Place) : Place :=
  { p with after := p.after ++ text }

@[simp] theorem behind_empty : behind "" = id := by
  funext p
  simp [behind]

/-- The mapping that a mark becomes in code that starts at a cursor. -/
def mapping (start : Cursor) (p : Place) : Mapping :=
  ⟨start.advance p.before, p.origin⟩

end Place

/-- The marks among pieces, in order. -/
def placesOf : List Piece → List Place
  | [] => []
  | .code text :: rest => (placesOf rest).map (Place.behind text)
  | .mark origin :: rest => ⟨"", origin, codeOf rest⟩ :: placesOf rest
  | .use _ :: rest => placesOf rest

/-- Behind pieces come the places of later ones, each with the code of the earlier ones before it.
    -/
theorem placesOf_append (ps qs : List Piece) :
    placesOf (ps ++ qs)
      = (placesOf ps).map (Place.ahead (codeOf qs))
        ++ (placesOf qs).map (Place.behind (codeOf ps)) := by
  induction ps with
  | nil =>
      rw [codeOf_nil, Place.behind_empty, List.map_id]
      rfl
  | cons p ps ih =>
      rw [List.cons_append]
      cases p with
      -- A text in front moves all later places, those of both parts alike.
      | code text =>
          simp only [placesOf, ih, List.map_append, List.map_map, codeOf_code]
          congr 2
          funext q
          simp [Place.behind, String.append_assoc]
      | mark origin => simp only [placesOf, ih, codeOf_append, codeOf_mark]; rfl
      | use helper => simp only [placesOf, ih, codeOf_use]

/-- Around every mark stands the whole code. -/
theorem before_append_after {ps : List Piece} {p : Place} (h : p ∈ placesOf ps) :
    p.before ++ p.after = codeOf ps := by
  induction ps generalizing p with
  | nil => exact nomatch h
  | cons q ps ih =>
      cases q with
      | code text =>
          obtain ⟨p, hp, rfl⟩ := List.mem_map.mp h
          rw [codeOf_code, ← ih hp, ← String.append_assoc]
          rfl
      | mark origin =>
          rcases List.mem_cons.mp h with rfl | hp
          · exact String.empty_append
          · exact ih hp
      | use helper => exact ih h

/-- Pieces append their marks as mappings, if mappings are wanted. -/
theorem Buffer.mappings_addAll (b : Buffer) (ps : List Piece) :
    (b.addAll ps).mappings
      = b.mappings ++ if b.options.sourceMap then (placesOf ps).map (Place.mapping b.cursor)
        else [] := by
  induction ps generalizing b with
  | nil => simp [placesOf]
  | cons p ps ih =>
      rw [addAll_cons, ih, options_add]
      cases p with
      | code text =>
          have moved : Place.mapping (b.cursor.advance text)
              = Place.mapping b.cursor ∘ Place.behind text := by
            funext p
            simp [Place.mapping, Place.behind]
          show b.mappings ++ (if b.options.sourceMap then
              (placesOf ps).map (Place.mapping (b.cursor.advance text)) else []) = _
          rw [placesOf, List.map_map, moved]
      | mark origin =>
          -- The options never change, so all marks are recorded or none.
          by_cases wanted : b.options.sourceMap = true
          · simp only [add, mark, if_pos wanted, placesOf, List.map_cons, List.append_assoc]
            rfl
          · simp only [add, mark, if_neg wanted]
      | use helper => rfl

/-! ## Uses -/

/-- The helpers used among pieces, in order. -/
def usesOf : List Piece → List Helper
  | [] => []
  | .code _ :: rest => usesOf rest
  | .mark _ :: rest => usesOf rest
  | .use helper :: rest => helper :: usesOf rest

@[simp] theorem usesOf_append (ps qs : List Piece) :
    usesOf (ps ++ qs) = usesOf ps ++ usesOf qs := by
  induction ps with
  | nil => rfl
  | cons p ps ih =>
      cases p with
      | code text => exact ih
      | mark origin => exact ih
      | use helper => exact congrArg (helper :: ·) ih

@[simp] theorem usesOf_spanned (text : String) (span : Span) :
    usesOf (Piece.spanned text span) = [] := by
  rw [Piece.spanned]
  split <;> rfl

/-- The helpers a buffer knows to be used are those it knew and those among the pieces. -/
theorem Buffer.used_addAll (b : Buffer) (ps : List Piece) :
    (b.addAll ps).used = (usesOf ps).foldl Helper.Usage.insert b.used := by
  induction ps generalizing b with
  | nil => rfl
  | cons p ps ih =>
      rw [addAll_cons, ih]
      cases p with
      | code text => rfl
      | mark origin =>
          rw [add, mark]
          split <;> rfl
      | use helper => rfl

end Vdom.Emit
