import Vdom.Proofs.Json.Writing
import Vdom.Proofs.Parts
import Vdom.Shape.Exchange
/-!
# Spelling — a shape is read from its parts, in any order

A shape is spelled by parts with bars between them, each a name or a word in hexadecimal, and every
part adds its bits. So neither order nor repetition tells, and the spelling in use is one of many:
the names of the bits in their order, then the bits without a name.

* **`bit_foldl`** — a bit of a union is set if it is set in one of the patterns.
* **`foldl_pieces`** — the patterns of the parts in use have the bits of the shape between them.
* **`read_padded`** — parts with blanks around them are read as the union of their patterns.
* **`spelling_order_free`** — the main theorem.
-/

namespace Vdom.Shape

open Text (Blanks isBlank)

/-! ## Bits -/

/-- Whether bit `k` is set. -/
def bit (a : Shape) (k : Nat) : Bool := a.bits.toBitVec.getLsbD k

/-- A pattern is known by its bits. -/
theorem eq_of_bit {a b : Shape} (same : ∀ k < 32, a.bit k = b.bit k) : a = b := by
  obtain ⟨⟨a⟩⟩ := a
  obtain ⟨⟨b⟩⟩ := b
  obtain rfl : a = b := BitVec.eq_of_getLsbD_eq same
  rfl

theorem bit_union (a b : Shape) (k : Nat) : (a.union b).bit k = (a.bit k || b.bit k) :=
  BitVec.getLsbD_or

theorem bit_empty (k : Nat) : empty.bit k = false := BitVec.getLsbD_zero

/-- What two shapes share has the bits that both have. -/
theorem bit_inter (a b : Shape) (k : Nat) : (a.inter b).bit k = (a.bit k && b.bit k) :=
  BitVec.getLsbD_and

/-- A difference has the bits of the first shape that the second lacks. -/
theorem bit_diff (a b : Shape) {k : Nat} (inside : k < 32) :
    (a.diff b).bit k = (a.bit k && !b.bit k) := by
  show (a.bits &&& ~~~b.bits).toBitVec.getLsbD k = _
  rw [UInt32.toBitVec_and, UInt32.toBitVec_not, BitVec.getLsbD_and, BitVec.getLsbD_not,
    decide_eq_true inside, Bool.true_and]
  rfl

/-- A union of many shapes has the bits of all of them, in whatever order they come. -/
theorem bit_foldl (shapes : List Shape) (acc : Shape) (k : Nat) :
    (shapes.foldl union acc).bit k = (acc.bit k || shapes.any (·.bit k)) := by
  induction shapes generalizing acc with
  | nil => exact (Bool.or_false _).symm
  | cons a shapes ih => rw [List.foldl_cons, ih, bit_union, List.any_cons, Bool.or_assoc]

/-- **ORDER AND REPETITION DO NOT TELL**: a union depends on what is united alone. -/
theorem foldl_union_congr {shapes others : List Shape} (same : ∀ a, a ∈ shapes ↔ a ∈ others) :
    shapes.foldl union empty = others.foldl union empty := by
  refine eq_of_bit fun k _ => ?_
  have any : shapes.any (·.bit k) = others.any (·.bit k) := by
    rw [Bool.eq_iff_iff, List.any_eq_true, List.any_eq_true]
    simp only [same]
  rw [bit_foldl, bit_foldl, any]

/-! ## Names -/

/-- Exactly bit `k` is set. -/
def Single (b : Shape) (k : Nat) : Prop := ∀ j < 32, b.bit j = decide (j = k)

/-- Every name stands for a single bit. -/
theorem names_single : ∀ entry ∈ names, ∃ k < 32, entry.2.Single k := by
  have single : ∀ entry ∈ names, ∃ k < 32, ∀ j < 32, entry.2.bit j = decide (j = k) := by decide
  exact single

/-- A single bit is contained if it is set. -/
theorem Single.contains {b : Shape} {k : Nat} (inside : k < 32) (single : b.Single k)
    (a : Shape) : a.contains b = a.bit k := by
  rw [Shape.contains, Bool.eq_iff_iff, decide_eq_true_iff]
  have own : b.bit k = true := by
    rw [single k inside]
    exact decide_eq_true rfl
  constructor
  · intro same
    have both := bit_inter a b k
    rw [same, own, Bool.and_true] at both
    exact both.symm
  · intro set
    -- Bit by bit: at the one place of the flag the shape decides, and nowhere else has the flag a
    -- bit.
    refine eq_of_bit fun j hj => ?_
    rw [bit_inter, single j hj]
    by_cases here : j = k
    · rw [here, set, Bool.true_and]
    · rw [decide_eq_false here, Bool.and_false]

/-- The patterns of the parts that spell a shape: its named bits, and what is left of it. -/
def pieces (a : Shape) : List Shape :=
  (names.filter fun entry => a.contains entry.2).map Prod.snd
    ++ if (a.diff knownMask).isEmpty then [] else [a.diff knownMask]

/-- Where a named bit is set, it is contained exactly if it is set in the shape. -/
theorem contains_bit (a : Shape) {entry : String × Shape} (there : entry ∈ names) {k : Nat}
    (inside : k < 32) (set : entry.2.bit k = true) : a.contains entry.2 = a.bit k := by
  obtain ⟨j, small, single⟩ := names_single entry there
  rw [single k inside] at set
  rw [single.contains small, of_decide_eq_true set]

/-- The named pieces of a shape have those of its bits that have names. -/
theorem any_names (a : Shape) {k : Nat} (inside : k < 32) :
    ((names.filter fun entry => a.contains entry.2).map Prod.snd).any (·.bit k)
      = (a.bit k && knownMask.bit k) := by
  have known : knownMask.bit k = names.any (·.2.bit k) := by
    show ((names.map Prod.snd).foldl union empty).bit k = _
    rw [bit_foldl, bit_empty, Bool.false_or, List.any_map]
    rfl
  rw [known, List.any_map, List.any_filter, List.and_any_distrib_left, Bool.eq_iff_iff,
    List.any_eq_true, List.any_eq_true]
  refine exists_congr fun entry => and_congr_right fun there => ?_
  show (a.contains entry.2 && entry.2.bit k) = true ↔ _
  by_cases set : entry.2.bit k = true
  · rw [a.contains_bit there inside set]
  · rw [(Bool.not_eq_true _).mp set, Bool.and_false, Bool.and_false]

/-- The pieces of a shape make it up: no bit is lost, be it named or not. -/
theorem foldl_pieces (a : Shape) : a.pieces.foldl union empty = a := by
  -- A known bit comes from the names, any other from what they leave.
  refine eq_of_bit fun k inside => ?_
  have rest : (if (a.diff knownMask).isEmpty then [] else [a.diff knownMask]).any (·.bit k)
      = (a.diff knownMask).bit k := by
    split
    · rename_i none
      obtain same : (a.diff knownMask).bits = 0 := of_decide_eq_true none
      rw [bit, same]
      exact BitVec.getLsbD_zero.symm
    · exact Bool.or_false _
  rw [bit_foldl, bit_empty, Bool.false_or, pieces, List.any_append, any_names a inside, rest,
    bit_diff a _ inside]
  cases a.bit k <;> cases knownMask.bit k <;> rfl

/-! ## Parts -/

/-- A part of a spelling: the name of a bit, or a word in hexadecimal digits of either case. -/
inductive Part : List Char → Shape → Prop where
  | name {name : String} {a : Shape} : (name, a) ∈ names → Part name.toList a
  | hex {digits : List Char} {word : UInt32} :
      Text.Hex.Spelled digits word.toNat → Part ('0' :: 'x' :: digits) ⟨word⟩

/-- A part with blanks around it. -/
inductive Padded (piece : String) (a : Shape) : Prop where
  | mk {before part after : List Char} :
      piece.toList = before ++ (part ++ after) → Blanks before → Part part a → Blanks after →
      Padded piece a

/-- Neither blanks nor bars are in a part, and a part is not empty. -/
theorem Part.plain {cs : List Char} {a : Shape} (part : Part cs a) :
    cs ≠ [] ∧ ∀ c ∈ cs, isBlank c = false ∧ c ≠ '|' := by
  cases part with
  | @name name a there =>
      have filled : ∀ entry ∈ names, entry.1.toList ≠ [] := by decide
      have plain : ∀ entry ∈ names, entry.1.toList.all fun c => !isBlank c && c != '|' := by
        decide
      refine ⟨filled _ there, fun c member => ?_⟩
      simpa using List.all_eq_true.mp (plain _ there) c member
  | hex spelled =>
      refine ⟨List.cons_ne_nil _ _, List.forall_mem_cons.mpr ⟨by decide, ?_⟩⟩
      refine List.forall_mem_cons.mpr ⟨by decide, fun c there => ?_⟩
      obtain ⟨d, digit⟩ := spelled.digits.2 c there
      exact ⟨digit.plain.1, digit.plain.2.1⟩

/-- A part is read as the shape that it spells. -/
theorem Part.read {cs : List Char} {a : Shape} (part : Part cs a) : readPart cs = .ok a := by
  cases part with
  | name there =>
      simp only [names, List.mem_cons, Prod.mk.injEq, List.not_mem_nil, or_false] at there
      rcases there with ⟨rfl, rfl⟩ | ⟨rfl, rfl⟩ | ⟨rfl, rfl⟩ | ⟨rfl, rfl⟩ | ⟨rfl, rfl⟩ <;> rfl
  | hex spelled =>
      rw [readPart, Text.Hex.read?_spelled spelled]

/-- Without its blanks, a padded part is the part. -/
theorem Padded.trim {piece : String} {a : Shape} (padded : Padded piece a) :
    ∃ part, Part part a ∧ Text.trim piece.toList = part := by
  obtain ⟨shape, hb, part, ha⟩ := padded
  refine ⟨_, part, ?_⟩
  rw [shape]
  exact Text.trim_padded hb ha part.plain.1 fun c there => (part.plain.2 c there).1

/-- A padded part is not blank, so a text that has one is not taken for the empty shape. -/
theorem Padded.dense {piece : String} {a : Shape} (padded : Padded piece a) :
    ∃ c ∈ piece.toList, isBlank c = false := by
  obtain ⟨shape, -, part, -⟩ := padded
  obtain ⟨c, there⟩ := List.exists_mem_of_ne_nil _ part.plain.1
  refine ⟨c, ?_, (part.plain.2 c there).1⟩
  rw [shape]
  exact List.mem_append_right _ (List.mem_append_left _ there)

/-- No bar is inside a part or among the blanks around it. -/
theorem Padded.free {piece : String} {a : Shape} (padded : Padded piece a) :
    '|' ∉ piece.toList := by
  have bar : isBlank '|' = false := by decide
  obtain ⟨shape, hb, part, ha⟩ := padded
  rw [shape, List.mem_append, List.mem_append]
  rintro (before | inside | after)
  · exact ne_true_of_eq_false bar (hb _ before)
  · exact (part.plain.2 _ inside).2 rfl
  · exact ne_true_of_eq_false bar (ha _ after)

/-! ## Reading -/

/-- Padded parts are read as the union of their shapes, from left to right. -/
theorem readParts_padded {pieces : List String} {shapes : List Shape}
    (padded : List.Forall₂ Padded pieces shapes) (acc : Shape) :
    readParts acc (pieces.map String.toList) = .ok (shapes.foldl union acc) := by
  induction padded generalizing acc with
  | nil => rfl
  | cons first _ ih =>
      obtain ⟨part, own, trimmed⟩ := first.trim
      rw [List.map_cons, readParts, trimmed, own.read]
      exact ih (acc.union _)

/-- A joined text starts with its first piece. -/
theorem prefix_join (separator piece : String) (rest : List String) :
    piece.toList <+: (Text.join separator (piece :: rest)).toList := by
  cases rest with
  | nil => exact List.prefix_rfl
  | cons second others =>
      show piece.toList <+: (piece ++ separator ++ Text.join separator (second :: others)).toList
      rw [String.toList_append, String.toList_append, List.append_assoc]
      exact List.prefix_append _ _

/-- **THE UNION OF ITS PARTS**: parts with blanks around them, joined by bars. -/
theorem read_padded {pieces : List String} {shapes : List Shape}
    (padded : List.Forall₂ Padded pieces shapes) :
    Shape.read (Text.join "|" pieces) = .ok (shapes.foldl union empty) := by
  have free : ∀ piece ∈ pieces, '|' ∉ piece.toList := by
    induction padded with
    | nil => exact nofun
    | cons first _ ih => exact List.forall_mem_cons.mpr ⟨first.free, ih⟩
  have parts := readParts_padded padded empty
  cases padded with
  | nil => rfl
  | @cons piece a rest shapes first others =>
      have bar : "|".toList = ['|'] := rfl
      -- No bar is inside a part, so the text is cut where it was joined.
      have cut := Text.splitAt_join bar (List.cons_ne_nil piece rest) free
      have filled : Text.trim (Text.join "|" (piece :: rest)).toList ≠ [] := by
        obtain ⟨c, there, dense⟩ := first.dense
        exact Text.trim_ne_nil ((prefix_join "|" piece rest).subset there) dense
      obtain ⟨c, left, shape⟩ := List.exists_cons_of_ne_nil filled
      rw [Shape.read, shape, cut]
      exact parts

/-! ## Writing -/

/-- The parts that a shape is written in spell its pieces, in the same order. -/
theorem parts_pieces (a : Shape) : List.Forall₂ (fun s b => Part s.toList b) a.parts a.pieces := by
  refine List.rel_append ?_ ?_
  · rw [List.forall₂_map_left_iff, List.forall₂_map_right_iff, List.forall₂_same]
    intro entry there
    exact .name (List.mem_of_mem_filter there)
  · rw [unnamedPart]
    split
    · exact .nil
    · refine .cons ?_ .nil
      rw [String.toList_ofList]
      exact .hex (Text.Hex.spelled_write _)

theorem Part.alone {part : String} {a : Shape} (own : Part part.toList a) : Padded part a := by
  have shape : part.toList = [] ++ (part.toList ++ []) := (List.append_nil _).symm
  exact .mk shape Text.blanks_nil own Text.blanks_nil

/-- A blank in front of what is padded. -/
theorem Padded.behind {piece : String} {a : Shape} (padded : Padded piece a) :
    Padded (" " ++ piece) a := by
  obtain @⟨before, part, after, shape, hb, own, ha⟩ := padded
  have blanks : Blanks (' ' :: before) := List.forall_mem_cons.mpr ⟨by decide, hb⟩
  refine .mk ?_ blanks own ha
  rw [String.toList_append, shape]
  rfl

/-- A blank behind what is padded. -/
theorem Padded.ahead {piece : String} {a : Shape} (padded : Padded piece a) :
    Padded (piece ++ " ") a := by
  obtain @⟨before, part, after, shape, hb, own, ha⟩ := padded
  have blanks : Blanks (after ++ [' ']) :=
    List.forall_mem_append.mpr ⟨ha, Text.blanks_single (by decide)⟩
  refine .mk ?_ hb own blanks
  rw [String.toList_append, shape, List.append_assoc, List.append_assoc]
  rfl

/-- What is put in front of the first piece is put in front of all. -/
theorem join_append (separator front piece : String) (rest : List String) :
    Text.join separator ((front ++ piece) :: rest)
      = front ++ Text.join separator (piece :: rest) := by
  cases rest with
  | nil => rfl
  | cons second others =>
      show front ++ piece ++ separator ++ Text.join separator (second :: others)
        = front ++ (piece ++ separator ++ Text.join separator (second :: others))
      simp only [String.append_assoc]

/-- **THE SPELLING IN USE IS ONE OF MANY**: its parts have one blank on each side of a bar. -/
theorem join_padded {parts : List String} {shapes : List Shape}
    (own : List.Forall₂ (fun s b => Part s.toList b) parts shapes) :
    ∃ pieces, List.Forall₂ Padded pieces shapes
      ∧ Text.join " | " parts = Text.join "|" pieces := by
  induction own with
  | nil => exact ⟨[], .nil, rfl⟩
  | @cons part a rest shapes first others ih =>
      obtain ⟨pieces, padded, same⟩ := ih
      cases padded with
      | nil =>
          cases others
          exact ⟨[part], .cons first.alone .nil, rfl⟩
      | @cons piece b more shapes next padded =>
          obtain ⟨second, behind, rfl⟩ : ∃ second behind, rest = second :: behind :=
            List.exists_cons_of_ne_nil fun none => nomatch none ▸ others
          -- Of the blanks around a bar, one belongs to the piece before it, one to that behind.
          refine ⟨(part ++ " ") :: (" " ++ piece) :: more,
            .cons first.alone.ahead (.cons next.behind padded), ?_⟩
          have bar : " | " = " " ++ ("|" ++ " ") := rfl
          show part ++ " | " ++ Text.join " | " (second :: behind)
            = part ++ " " ++ "|" ++ Text.join "|" ((" " ++ piece) :: more)
          rw [join_append, same, bar]
          simp only [String.append_assoc]

/-- What a shape spells is read as the shape. -/
theorem read_spell (a : Shape) : Shape.read a.spell = .ok a := by
  obtain ⟨pieces, padded, same⟩ := join_padded a.parts_pieces
  rw [spell, same, read_padded padded, foldl_pieces]

/-! ## Documents -/

/-- A text that is read as a shape is accepted as one in a document, however it is escaped. -/
theorem accepts_readJson {s : String} {a : Shape} (read : Shape.read s = .ok a) :
    Json.Accepts readJson (.text (Json.points s)) a := by
  intro before cs rest hb written _
  rw [readJson, Json.readStringAs_written _ hb written rest]
  simp only [bind, Except.bind, read]

/-- **ONE SHAPE, MANY SPELLINGS**. Every shape, bits without a name included, is read from what it
    spells, and from the document that holds it. Parts with blanks around them, joined by bars, are
    read as the union of their patterns, whatever document says so; so it tells neither in which
    order they stand nor how often, and written anew the shape has its one spelling. -/
theorem spelling_order_free :
    (∀ a : Shape, Shape.read a.spell = .ok a ∧ Json.readDocument readJson a.writeJson = .ok a)
    ∧ (∀ pieces shapes, List.Forall₂ Padded pieces shapes →
      Shape.read (Text.join "|" pieces) = .ok (shapes.foldl union empty)
      ∧ (Shape.read (Text.join "|" pieces)).map spell = .ok (shapes.foldl union empty).spell
      ∧ ∀ document, (Json.Tree.text (Json.points (Text.join "|" pieces))).WrittenAs document →
        Json.readDocument readJson document = .ok (shapes.foldl union empty))
    ∧ ∀ pieces shapes others more, List.Forall₂ Padded pieces shapes →
      List.Forall₂ Padded others more → (∀ a, a ∈ shapes ↔ a ∈ more) →
      Shape.read (Text.join "|" pieces) = Shape.read (Text.join "|" others) := by
  refine ⟨?_, ?_, ?_⟩
  · intro a
    refine ⟨a.read_spell, (accepts_readJson a.read_spell).document ?_⟩
    exact .of_written (Json.quote_written a.spell)
  · intro pieces shapes padded
    -- The text in a document may be escaped in any way; it is read as the plain text first.
    have read := read_padded padded
    refine ⟨read, ?_, fun document holds => (accepts_readJson read).document holds⟩
    rw [read]
    rfl
  · intro pieces shapes others more padded repadded same
    rw [read_padded padded, read_padded repadded, foldl_union_congr same]

/-- Slots twice and an element, with a word between them that has a bit without a name. -/
theorem slots_twice_spelled :
    List.Forall₂ Padded ["\tSLOTS_CHILDREN", " 0x0A", "ELEMENT ", " SLOTS_CHILDREN "]
      [slotsChildren, ⟨10⟩, element, slotsChildren]
    ∧ Shape.read "\tSLOTS_CHILDREN| 0x0A|ELEMENT | SLOTS_CHILDREN " = .ok ⟨43⟩
    ∧ (Shape.mk 43).spell = "ELEMENT | TEXT_CHILDREN | SLOTS_CHILDREN | 0x2"
    ∧ Shape.read "ELEMENT | TEXT_CHILDREN | SLOTS_CHILDREN | 0x2" = .ok ⟨43⟩ := by
  have tab : Blanks ['\t'] := Text.blanks_single (by decide)
  have space : Blanks [' '] := Text.blanks_single (by decide)
  have nothing : Blanks [] := Text.blanks_nil
  have slots : Part "SLOTS_CHILDREN".toList slotsChildren := .name (by decide)
  have host : Part "ELEMENT".toList element := .name (by decide)
  have zero : Text.Hex.Digit '0' 0 := ⟨by decide, .inl rfl⟩
  have ten : Text.Hex.Digit 'A' 10 := ⟨by decide, .inr rfl⟩
  have word : Part ['0', 'x', '0', 'A'] ⟨10⟩ := .hex (.more (.single zero) ten)
  have padded : List.Forall₂ Padded ["\tSLOTS_CHILDREN", " 0x0A", "ELEMENT ", " SLOTS_CHILDREN "]
      [slotsChildren, ⟨10⟩, element, slotsChildren] :=
    .cons (.mk rfl tab slots nothing) (.cons (.mk rfl space word nothing)
      (.cons (.mk rfl nothing host space) (.cons (.mk rfl space slots space) .nil)))
  obtain ⟨back, union, -⟩ := spelling_order_free
  have own : (Shape.mk 43).spell = "ELEMENT | TEXT_CHILDREN | SLOTS_CHILDREN | 0x2" := by decide
  exact ⟨padded, (union _ _ padded).1, own, own ▸ (back ⟨43⟩).1⟩

end Vdom.Shape
