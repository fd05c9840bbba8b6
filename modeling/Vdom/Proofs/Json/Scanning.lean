import Vdom.Json.Read
import Vdom.Proofs.Json.Grammar
/-!
# Scanning what the grammar allows — blanks, literals and numbers are read to their end

Every reader of a token, started on a text of the grammar, yields what the text says and leaves
exactly what follows it. A literal ends itself; a number ends where something follows that cannot
belong to it, which is so for all that may follow a value (`Delimited`).

* **`skipSpace_blank`**, **`skipSpace_dense`** — blanks are skipped, and nothing else is.
* **`readText_spelled`**, **`skipText_spelled`** — literals.
* **`readNumeral_spelled`**, **`readNumeral_whole`** — numbers.
-/

namespace Vdom.Json

/-! ## Blanks -/

/-- The blanks of the reader are those of the grammar. -/
theorem isSpace_iff {c : Char} : isSpace c = true ↔ c ∈ [' ', '\t', '\n', '\r'] := by
  simp [isSpace, or_assoc]

/-- A text that starts with a character other than a blank. -/
def Dense (cs : List Char) : Prop := ∃ c rest, cs = c :: rest ∧ isSpace c = false

/-- What may follow a value: nothing, a blank, a comma or a closing bracket. -/
def Delimited (rest : List Char) : Prop :=
  ∀ c ∈ rest.head?, isSpace c = true ∨ c ∈ [',', ']', '\x7d']

theorem Dense.append {cs : List Char} (dense : Dense cs) (rest : List Char) :
    Dense (cs ++ rest) := by
  obtain ⟨c, tail, rfl, h⟩ := dense
  exact ⟨c, tail ++ rest, rfl, h⟩

theorem delimited_nil : Delimited [] := nofun

/-- What may follow a value is a comma or a closing bracket. -/
theorem delimited_cons {c : Char} (closes : c ∈ [',', ']', '\x7d']) (rest : List Char) :
    Delimited (c :: rest) := by
  rintro _ ⟨⟩
  exact .inr closes

/-- Blanks in front of what may follow a value may follow it, too. -/
theorem Delimited.behind {blank rest : List Char} (delimited : Delimited rest)
    (hb : Blank blank) : Delimited (blank ++ rest) := by
  cases blank with
  | nil => exact delimited
  | cons c cs =>
      rintro _ ⟨⟩
      exact .inl (isSpace_iff.mpr (hb c List.mem_cons_self))

theorem blank_nil : Blank [] := nofun

/-- Blanks are skipped. -/
theorem skipSpace_blank {blank : List Char} (hb : Blank blank) (cs : List Char) :
    skipSpace (blank ++ cs) = skipSpace cs :=
  List.dropWhile_append_of_pos fun c there => isSpace_iff.mpr (hb c there)

/-- Where there is no blank, nothing is skipped. -/
theorem skipSpace_dense {cs : List Char} (dense : Dense cs) : skipSpace cs = cs := by
  obtain ⟨c, rest, rfl, h⟩ := dense
  rw [skipSpace, List.dropWhile_cons_of_neg (by rw [h]; exact Bool.false_ne_true)]

/-- Blanks are skipped up to the first other character. -/
theorem skipSpace_before {blank cs : List Char} (hb : Blank blank) (dense : Dense cs) :
    skipSpace (blank ++ cs) = cs := by
  rw [skipSpace_blank hb, skipSpace_dense dense]

/-- The colon behind a name is found, with blanks before it or not. -/
theorem skipColon_blank {blank : List Char} (hb : Blank blank) (rest : List Char) :
    skipColon (blank ++ ':' :: rest) = .ok rest := by
  rw [skipColon, skipSpace_before hb ⟨':', rest, rfl, rfl⟩]
  rfl

/-! ## Literals -/

/-- Two halves make the code point that the grammar says they do. -/
theorem toNat_joinHalves {n m : Nat} (high : isHighHalf n = true) (low : isLowHalf m = true) :
    (joinHalves n m).toNat = 0x10000 + (n - 0xd800) * 0x400 + (m - 0xdc00) := by
  simp only [isHighHalf, isLowHalf, Bool.and_eq_true, decide_eq_true_eq] at high low
  rw [joinHalves, Char.ofNat, dif_pos]
  · rfl
  · refine .inr ⟨?_, ?_⟩ <;> omega

/-- A code point of a string is no half of a pair. -/
theorem toNat_no_half (c : Char) : isHighHalf c.toNat = false ∧ isLowHalf c.toNat = false := by
  have valid := c.valid
  simp only [isHighHalf, isLowHalf, Bool.and_eq_false_iff, decide_eq_false_iff_not]
  rcases valid with below | ⟨above, -⟩
  · have : c.toNat < 0xd800 := below
    omega
  · have : 0xdfff < c.toNat := above
    omega

/-- A letter after a backslash is read as the character it stands for. -/
theorem readText_short {letter c : Char} (known : (letter, c) ∈ shortEscapes) (rest : List Char) :
    readText ('\\' :: letter :: rest) = consRead c (readText rest) := by
  simp only [shortEscapes, List.mem_cons, Prod.mk.injEq, List.not_mem_nil, or_false] at known
  rcases known with ⟨rfl, rfl⟩ | ⟨rfl, rfl⟩ | ⟨rfl, rfl⟩ | ⟨rfl, rfl⟩ | ⟨rfl, rfl⟩ | ⟨rfl, rfl⟩
    | ⟨rfl, rfl⟩ | ⟨rfl, rfl⟩ <;> rfl

/-- In a text that is skipped, such a letter is passed over unread. -/
theorem skipText_short {letter c : Char} (known : (letter, c) ∈ shortEscapes) (rest : List Char) :
    skipText ('\\' :: letter :: rest) = skipText rest := by
  simp only [shortEscapes, List.mem_cons, Prod.mk.injEq, List.not_mem_nil, or_false] at known
  rcases known with ⟨rfl, rfl⟩ | ⟨rfl, rfl⟩ | ⟨rfl, rfl⟩ | ⟨rfl, rfl⟩ | ⟨rfl, rfl⟩ | ⟨rfl, rfl⟩
    | ⟨rfl, rfl⟩ | ⟨rfl, rfl⟩ <;> rfl

/-- In a text that is skipped, a code unit is passed over, be it half of a pair or not. -/
theorem skipText_unit {a b c d : Char} {n : Nat} (spelled : hexWord? a b c d = some n)
    (rest : List Char) : skipText ('\\' :: 'u' :: a :: b :: c :: d :: rest) = skipText rest := by
  rw [skipText, spelled]

/-- A literal is skipped to its end, halves that stand alone included. -/
theorem skipText_spelled {ps : Points} {cs : List Char} (spelled : Spells ps cs)
    (rest : List Char) : skipText (cs ++ '"' :: rest) = .ok rest := by
  induction spelled with
  | done => rfl
  | plain quote backslash printable _ ih =>
      exact (skipText_plain quote backslash printable).trans ih
  | short known _ ih => exact (skipText_short known _).trans ih
  | unit digits _ _ _ ih => exact (skipText_unit digits _).trans ih
  | pair first _ second _ _ ih =>
      exact (skipText_unit first _).trans ((skipText_unit second _).trans ih)
  | half digits _ _ _ ih => exact (skipText_unit digits _).trans ih

/-- Two escaped halves in a row are read as one character. -/
theorem readText_pair {a b c d e f g h : Char} {n m : Nat} (first : hexWord? a b c d = some n)
    (high : isHighHalf n = true) (second : hexWord? e f g h = some m) (low : isLowHalf m = true)
    (rest : List Char) :
    readText ('\\' :: 'u' :: a :: b :: c :: d :: '\\' :: 'u' :: e :: f :: g :: h :: rest)
      = consRead (joinHalves n m) (readText rest) := by
  have apart : isLowHalf n = false := by
    simp only [isHighHalf, isLowHalf, Bool.and_eq_true, decide_eq_true_eq, Bool.and_eq_false_iff,
      decide_eq_false_iff_not] at high ⊢
    omega
  simp only [readText, first, apart, high, second, low, Bool.false_eq_true, if_true, if_false]

/-- **A LITERAL SAYS ITS STRING**: without lone halves it is read to its end, character by
    character, whichever way each of them is written. -/
theorem readText_spelled {ps : Points} {cs : List Char} (spelled : Spells ps cs)
    (rest : List Char) : ∀ s : List Char, s.map Char.toNat = ps →
      readText (cs ++ '"' :: rest) = .ok (s, rest) := by
  -- The string is taken apart with the literal: each rule gives its next character.
  induction spelled with
  | done =>
      intro s hs
      rw [List.map_eq_nil_iff.mp hs]
      rfl
  | plain quote backslash printable _ ih =>
      intro s hs
      obtain ⟨first, s, rfl, same, hps⟩ := List.map_eq_cons_iff.mp hs
      rw [Char.toNat_inj.mp same, List.cons_append, readText_plain quote backslash printable,
        ih s hps]
      rfl
  | short known _ ih =>
      intro s hs
      obtain ⟨first, s, rfl, same, hps⟩ := List.map_eq_cons_iff.mp hs
      rw [Char.toNat_inj.mp same, List.cons_append, List.cons_append, readText_short known,
        ih s hps]
      rfl
  | unit digits high low _ ih =>
      intro s hs
      obtain ⟨first, s, rfl, same, hps⟩ := List.map_eq_cons_iff.mp hs
      simp only [List.cons_append, readText, digits, high, low, Bool.false_eq_true, if_false]
      rw [ih s hps, ← same, Char.ofNat_toNat]
      rfl
  | pair first high second low _ ih =>
      intro s hs
      obtain ⟨joined, s, rfl, same, hps⟩ := List.map_eq_cons_iff.mp hs
      rw [← toNat_joinHalves high low, Char.toNat_inj] at same
      have read := readText_pair first high second low
      simp only [List.cons_append]
      rw [read, ih s hps, same]
      rfl
  | half digits lone _ _ ih =>
      intro s hs
      obtain ⟨first, s, rfl, same, hps⟩ := List.map_eq_cons_iff.mp hs
      obtain ⟨high, low⟩ := toNat_no_half first
      rw [same] at high low
      simp [high, low] at lone

/-! ## Numbers -/

/-- What cannot go on a number: its first character is no digit, no point and no exponent. -/
def Ends (rest : List Char) : Prop :=
  ∀ c ∈ rest.head?, isDigit c = false ∧ c ∉ ['.', 'e', 'E']

/-- What may follow a value ends a number. -/
theorem Delimited.ends {rest : List Char} (delimited : Delimited rest) : Ends rest := by
  intro c hc
  rcases delimited c hc with space | closes
  · have blank := isSpace_iff.mp space
    simp only [List.mem_cons, List.not_mem_nil, or_false] at blank
    rcases blank with rfl | rfl | rfl | rfl <;> decide
  · simp only [List.mem_cons, List.not_mem_nil, or_false] at closes
    rcases closes with rfl | rfl | rfl <;> decide

theorem ends_letter {letter : Char} (known : letter ∈ ['e', 'E']) (rest : List Char) :
    ∀ c ∈ (letter :: rest).head?, isDigit c = false := by
  rintro _ ⟨⟩
  simp only [List.mem_cons, List.not_mem_nil, or_false] at known
  rcases known with rfl | rfl <;> decide

/-- Digits are read up to the first character that is none. -/
theorem readDigits_ok {atEnd : Problem} {ds rest : List Char} (digits : Digits ds)
    (stop : ∀ c ∈ rest.head?, isDigit c = false) :
    readDigits atEnd (ds ++ rest) = .ok (ds, rest) := by
  have taken : (ds ++ rest).takeWhile isDigit = ds := by
    rw [List.takeWhile_append_of_pos digits.2]
    cases rest with
    | nil => rw [List.takeWhile_nil, List.append_nil]
    | cons c cs => rw [List.takeWhile_cons_of_neg (by simp [stop c rfl]), List.append_nil]
  have left : (ds ++ rest).dropWhile isDigit = rest := by
    rw [List.dropWhile_append_of_pos digits.2]
    cases rest with
    | nil => rfl
    | cons c cs => rw [List.dropWhile_cons_of_neg (by simp [stop c rfl])]
  rw [readDigits, taken, left]
  obtain ⟨d, others, rfl⟩ := List.exists_cons_of_ne_nil digits.1
  rfl

/-- The digits before the point are read up to the first other character. -/
theorem readWhole_ok (atEnd : Problem) {ds rest : List Char} (whole : Whole ds)
    (stop : ∀ c ∈ rest.head?, isDigit c = false) :
    readWhole atEnd (ds ++ rest) = .ok (ds, rest) := by
  rw [readWhole, readDigits_ok whole.1 stop]
  split
  · rename_i leading
    obtain ⟨rfl, rfl⟩ := Prod.mk.inj (Except.ok.inj leading)
    exact absurd (whole.2 rfl) (by simp)
  · rfl

/-- Without a point there is no fraction. -/
theorem readFraction_none {atEnd : Problem} {rest : List Char} (stop : ∀ c ∈ rest.head?, c ≠ '.') :
    readFraction atEnd rest = .ok (none, rest) := by
  rw [readFraction]
  rintro tail rfl
  exact stop '.' rfl rfl

/-- Without a letter there is no exponent. -/
theorem readExponent_none {atEnd : Problem} {rest : List Char} (stop : Ends rest) :
    readExponent atEnd rest = .ok (none, rest) := by
  rw [readExponent]
  · rintro tail rfl
    exact (stop 'e' rfl).2 (by decide)
  · rintro tail rfl
    exact (stop 'E' rfl).2 (by decide)

/-- An exponent without a sign is not negative. -/
theorem readExponentDigits_plain {atEnd : Problem} {ds rest : List Char} (digits : Digits ds)
    (stop : ∀ c ∈ rest.head?, isDigit c = false) :
    readExponentDigits atEnd (ds ++ rest) = .ok (some (false, ds), rest) := by
  obtain ⟨d, others, rfl⟩ := List.exists_cons_of_ne_nil digits.1
  have digit : isDigit d = true := digits.2 d List.mem_cons_self
  rw [List.cons_append, readExponentDigits, ← List.cons_append, readDigits_ok digits stop]
  · rfl
  · rintro _ ⟨⟩
    exact absurd digit (by decide)
  · rintro _ ⟨⟩
    exact absurd digit (by decide)

/-- An exponent with a sign is read; what it is worth is of no concern here. -/
theorem readExponentDigits_signed {atEnd : Problem} {sign : Char} {ds rest : List Char}
    (known : sign ∈ ['+', '-']) (digits : Digits ds)
    (stop : ∀ c ∈ rest.head?, isDigit c = false) :
    ∃ read, readExponentDigits atEnd (sign :: (ds ++ rest)) = .ok (read, rest) := by
  simp only [List.mem_cons, List.not_mem_nil, or_false] at known
  rcases known with rfl | rfl
  all_goals
    rw [readExponentDigits, readDigits_ok digits stop]
    exact ⟨_, rfl⟩

theorem readExponent_letter {letter : Char} (known : letter ∈ ['e', 'E']) (atEnd : Problem)
    (cs : List Char) : readExponent atEnd (letter :: cs) = readExponentDigits atEnd cs := by
  simp only [List.mem_cons, List.not_mem_nil, or_false] at known
  rcases known with rfl | rfl <;> rfl

/-- What the grammar takes for an exponent is read to its end. -/
theorem readExponent_ok (atEnd : Problem) {cs rest : List Char} (exponent : Exponent cs)
    (stop : Ends rest) : ∃ read, readExponent atEnd (cs ++ rest) = .ok (read, rest) := by
  have noDigit : ∀ c ∈ rest.head?, isDigit c = false := fun c hc => (stop c hc).1
  cases exponent with
  | none => exact ⟨none, readExponent_none stop⟩
  | unsigned known digits =>
      rw [List.cons_append, readExponent_letter known]
      exact ⟨_, readExponentDigits_plain digits noDigit⟩
  | signed known sign digits =>
      rw [List.cons_append, readExponent_letter known]
      exact readExponentDigits_signed sign digits noDigit

/-- An exponent, or what follows a number that has none, is no more of the digits before it. -/
theorem Exponent.noDigit {cs rest : List Char} (exponent : Exponent cs) (stop : Ends rest) :
    ∀ c ∈ (cs ++ rest).head?, isDigit c = false := by
  cases exponent with
  | none => exact fun c hc => (stop c hc).1
  | unsigned known _ => exact ends_letter known _
  | signed known _ _ => exact ends_letter known _

/-- A second point is no exponent. -/
theorem Exponent.noPoint {cs rest : List Char} (exponent : Exponent cs) (stop : Ends rest) :
    ∀ c ∈ (cs ++ rest).head?, c ≠ '.' := by
  have other : ∀ letter ∈ ['e', 'E'], letter ≠ '.' := by simp
  cases exponent with
  | none =>
      rintro c hc rfl
      exact (stop _ hc).2 (by decide)
  | unsigned known _ =>
      rintro _ ⟨⟩
      exact other _ known
  | signed known _ _ =>
      rintro _ ⟨⟩
      exact other _ known

/-- What the grammar takes for a fraction is read to its end. -/
theorem readFraction_ok (atEnd : Problem) {cs rest : List Char} (fraction : Fraction cs)
    (point : ∀ c ∈ rest.head?, c ≠ '.') (digit : ∀ c ∈ rest.head?, isDigit c = false) :
    ∃ read, readFraction atEnd (cs ++ rest) = .ok (read, rest) := by
  cases fraction with
  | none => exact ⟨none, readFraction_none point⟩
  | some digits =>
      rw [List.cons_append, readFraction, readDigits_ok digits digit]
      exact ⟨_, rfl⟩

/-- A fraction does not start with a digit, so the digits before it end. -/
theorem Fraction.noDigit {cs rest : List Char} (fraction : Fraction cs)
    (digit : ∀ c ∈ rest.head?, isDigit c = false) :
    ∀ c ∈ (cs ++ rest).head?, isDigit c = false := by
  cases fraction with
  | none => exact digit
  | some _ =>
      rintro _ ⟨⟩
      rfl

/-- What the grammar takes for a number without a sign is read to its end. -/
theorem readUnsigned_ok (atEnd : Problem) (negative : Bool) {cs rest : List Char}
    (unsigned : Unsigned cs) (stop : Ends rest) :
    ∃ numeral, readUnsigned atEnd negative (cs ++ rest) = .ok (numeral, rest) := by
  obtain @⟨ds, fraction, exponent, whole, hf, he⟩ := unsigned
  obtain ⟨readF, eqF⟩ := readFraction_ok atEnd hf (he.noPoint stop) (he.noDigit stop)
  obtain ⟨readE, eqE⟩ := readExponent_ok atEnd he stop
  have eqW := readWhole_ok atEnd whole (hf.noDigit (he.noDigit stop))
  refine ⟨⟨negative, ds, readF, readE⟩, ?_⟩
  simp only [List.append_assoc, readUnsigned, eqW, eqF, eqE, bind, Except.bind]

theorem Unsigned.starts {cs : List Char} (unsigned : Unsigned cs) :
    ∃ d others, cs = d :: others ∧ isDigit d = true := by
  obtain @⟨ds, fraction, exponent, whole, _, _⟩ := unsigned
  obtain ⟨d, others, rfl⟩ := List.exists_cons_of_ne_nil whole.1.1
  exact ⟨d, others ++ (fraction ++ exponent), rfl, whole.1.2 d List.mem_cons_self⟩

theorem readNumeral_digit {d : Char} (digit : isDigit d = true) (atEnd : Problem)
    (cs : List Char) : readNumeral atEnd (d :: cs) = readUnsigned atEnd false (d :: cs) := by
  rw [readNumeral]
  rintro _ ⟨⟩
  exact absurd digit (by decide)

/-- **A NUMBER IS READ TO ITS END**, whatever its size. -/
theorem readNumeral_spelled (atEnd : Problem) {cs rest : List Char} (spelled : Spelled cs)
    (stop : Ends rest) : ∃ numeral, readNumeral atEnd (cs ++ rest) = .ok (numeral, rest) := by
  cases spelled with
  | positive unsigned =>
      have read := readUnsigned_ok atEnd false unsigned stop
      obtain ⟨d, others, rfl, digit⟩ := unsigned.starts
      rw [List.cons_append, readNumeral_digit digit]
      exact read
  | negative unsigned => exact readUnsigned_ok atEnd true unsigned stop

/-- A number without sign, point and exponent is its digits. -/
theorem readNumeral_whole (atEnd : Problem) {ds rest : List Char} (whole : Whole ds)
    (stop : Ends rest) :
    readNumeral atEnd (ds ++ rest) = .ok (⟨false, ds, none, none⟩, rest) := by
  have noDigit : ∀ c ∈ rest.head?, isDigit c = false := fun c hc => (stop c hc).1
  have noPoint : ∀ c ∈ rest.head?, c ≠ '.' := Exponent.none.noPoint stop
  have read : readUnsigned atEnd false (ds ++ rest) = .ok (⟨false, ds, none, none⟩, rest) := by
    simp only [readUnsigned, readWhole_ok atEnd whole noDigit, readFraction_none noPoint,
      readExponent_none stop, bind, Except.bind]
  obtain ⟨d, others, rfl⟩ := List.exists_cons_of_ne_nil whole.1.1
  rw [List.cons_append, readNumeral_digit (whole.1.2 d List.mem_cons_self)]
  exact read

end Vdom.Json
