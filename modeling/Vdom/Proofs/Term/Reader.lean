import Vdom.Proofs.Literal
import Vdom.Proofs.Term
/-!
# Reading terms — a printed term says what it is

`Term.read` reads a term at the front of a text and leaves the rest. It knows nothing of templates
and takes every decision from the next few characters, so that nothing but the text can tell two
terms apart.

* **`readTerm_print`** — a printed term is read back and the text behind it is left, whatever it
  is, as long as it does not go on with the last word. The induction is on the term; fuel covers
  the characters that are still to be read.
* **`Term.read_print`** — the same without fuel.
-/

namespace Vdom.Emit

/-! ## The reader -/

/-- The text behind `text`, if it starts with it. -/
def skip? : List Char → List Char → Option (List Char)
  | [], cs => some cs
  | _ :: _, [] => none
  | t :: text, c :: cs => if c = t then skip? text cs else none

/-- A literal or a word. -/
def readLeaf (A : Alphabet) : List Char → Option (Leaf × List Char)
  | [] => none
  | c :: cs =>
    if c = '"' then
      match Json.readText cs with
      | .ok (text, rest) => some (.literal (String.ofList text), rest)
      | .error _ => none
    else if A.contains c then
      some (.word (String.ofList ((c :: cs).takeWhile A.contains)),
        (c :: cs).dropWhile A.contains)
    else none

/-- The key of an entry: a literal, or a word in brackets. -/
def readKey (A : Alphabet) (cs : List Char) : Option (Leaf × List Char) :=
  match skip? ['['] cs with
  | none => readLeaf A cs
  | some cs => do
    let (key, cs) ← readLeaf A cs
    let rest ← skip? [']'] cs
    some (key, rest)

/-- What an argument says: the filler of gaps says that there is none. -/
def argument? : Term → Option Term
  | .leaf (.word text) => if text = "null" then none else some (.leaf (.word text))
  | t => some t

mutual

/-- A term. -/
def readTerm (A : Alphabet) : Nat → List Char → Option (Term × List Char)
  | 0, _ => none
  | fuel + 1, cs =>
    match skip? ['['] cs with
    | some cs =>
      match skip? [']'] cs with
      | some rest => some (.array [], rest)
      | none => do
        let (first, cs) ← readTerm A fuel cs
        let (others, cs) ← readMore A fuel cs
        let rest ← skip? [']'] cs
        some (.array (first :: others), rest)
    | none =>
      match skip? ['\x7b'] cs with
      | some cs =>
        match skip? ['\x7d'] cs with
        | some rest => some (.object [], rest)
        | none => do
          let cs ← skip? [' '] cs
          let (first, cs) ← readEntry A fuel cs
          let (others, cs) ← readMoreEntries A fuel cs
          let rest ← skip? [' ', '\x7d'] cs
          some (.object (first :: others), rest)
      | none => do
        let (l, cs) ← readLeaf A cs
        match skip? ['('] cs with
        | none => some (.leaf l, cs)
        | some cs =>
          if l = .word "h" then do
            let (tag, cs) ← readLeaf A cs
            let (props, cs) ← readSlot A fuel cs
            let (content, cs) ← readSlot A fuel cs
            let rest ← skip? [')'] cs
            some (.call tag props content, rest)
          else none

/-- An argument behind a comma, or nothing. -/
def readSlot (A : Alphabet) : Nat → List Char → Option (Option Term × List Char)
  | 0, _ => none
  | fuel + 1, cs =>
    match skip? [',', ' '] cs with
    | none => some (none, cs)
    | some cs => do
      let (t, rest) ← readTerm A fuel cs
      some (argument? t, rest)

/-- Items behind commas. -/
def readMore (A : Alphabet) : Nat → List Char → Option (List Term × List Char)
  | 0, _ => none
  | fuel + 1, cs =>
    match skip? [',', ' '] cs with
    | none => some ([], cs)
    | some cs => do
      let (item, cs) ← readTerm A fuel cs
      let (others, rest) ← readMore A fuel cs
      some (item :: others, rest)

/-- An entry: key, colon, value. -/
def readEntry (A : Alphabet) : Nat → List Char → Option (Entry × List Char)
  | 0, _ => none
  | fuel + 1, cs => do
    let (key, cs) ← readKey A cs
    let cs ← skip? [':', ' '] cs
    let (value, rest) ← readTerm A fuel cs
    some (.mk key value, rest)

/-- Entries behind commas. -/
def readMoreEntries (A : Alphabet) : Nat → List Char → Option (List Entry × List Char)
  | 0, _ => none
  | fuel + 1, cs =>
    match skip? [',', ' '] cs with
    | none => some ([], cs)
    | some cs => do
      let (entry, cs) ← readEntry A fuel cs
      let (others, rest) ← readMoreEntries A fuel cs
      some (entry :: others, rest)

end

/-- The term at the front of a text, and the text behind it. -/
def Term.read (A : Alphabet) (text : String) : Option (Term × String) :=
  (readTerm A (text.toList.length + 1) text.toList).map fun (t, rest) => (t, String.ofList rest)

/-! ## Reading leaves -/

/-- A text that stands in front is skipped. -/
theorem skip?_append (text rest : List Char) : skip? text (text ++ rest) = some rest := by
  induction text with
  | nil => rfl
  | cons t text ih => rw [List.cons_append, skip?, if_pos rfl, ih]

theorem skip?_ne {c t : Char} (h : c ≠ t) (text rest : List Char) :
    skip? (t :: text) (c :: rest) = none := by
  rw [skip?, if_neg h]

variable {A : Alphabet}

/-- A text that ends a word is the rest of the word in front of it. -/
theorem span_word {text : String} (h : A.Word text) {rest : List Char} (ends : A.Ends rest) :
    (text.toList ++ rest).takeWhile A.contains = text.toList
      ∧ (text.toList ++ rest).dropWhile A.contains = rest := by
  have ended : rest.takeWhile A.contains = [] ∧ rest.dropWhile A.contains = rest := by
    cases rest with
    | nil => exact ⟨rfl, rfl⟩
    | cons c cs =>
        have out : A.contains c = false := ends c rfl
        rw [List.takeWhile_cons, List.dropWhile_cons, out]
        exact ⟨rfl, rfl⟩
  rw [List.takeWhile_append_of_pos h.2, List.dropWhile_append_of_pos h.2, ended.1, ended.2,
    List.append_nil]
  exact ⟨rfl, rfl⟩

/-- A word starts with a character of the alphabet. -/
theorem Alphabet.Word.head {text : String} (h : A.Word text) :
    ∃ c cs, text.toList = c :: cs ∧ A.contains c = true := by
  cases hcs : text.toList with
  | nil => exact absurd (String.toList_eq_nil_iff.mp hcs) h.1
  | cons c cs => exact ⟨c, cs, rfl, h.2 c (by rw [hcs]; exact List.mem_cons_self)⟩

/-- A character of the alphabet is no delimiter. -/
theorem ne_of_contains {c d : Char} (h : A.contains c = true) (hd : d ∈ delimiters) : c ≠ d := by
  rintro rfl
  rw [A.apart c hd] at h
  exact nomatch h

/-- A word is read back, up to the first character that cannot go on with it. -/
theorem readLeaf_word {text : String} (h : A.Word text) {rest : List Char}
    (ends : A.Ends rest) : readLeaf A (text.toList ++ rest) = some (.word text, rest) := by
  obtain ⟨taken, dropped⟩ := span_word h ends
  obtain ⟨c, cs, hcs, hc⟩ := h.head
  rw [hcs, List.cons_append] at taken dropped ⊢
  rw [readLeaf, if_neg (ne_of_contains hc (by decide)), if_pos hc, taken, dropped, ← hcs,
    String.ofList_toList]

/-- A string literal is read back, whatever follows its closing quote. -/
theorem readLeaf_literal (text : String) (rest : List Char) :
    readLeaf A ((Leaf.literal text).print ++ rest) = some (.literal text, rest) := by
  rw [Leaf.print, Text.Quoted.encode, List.cons_append, List.append_assoc, readLeaf, if_pos rfl,
    List.singleton_append, Json.readText_quoted]
  show some (Leaf.literal (String.ofList text.toList), rest) = some (Leaf.literal text, rest)
  rw [String.ofList_toList]

/-- Leaves that are legible are read back. -/
theorem readLeaf_print {l : Leaf} (h : l.Legible A) {rest : List Char} (ends : A.Ends rest) :
    readLeaf A (l.print ++ rest) = some (l, rest) := by
  cases l with
  | literal text => exact readLeaf_literal text rest
  | word text => exact readLeaf_word h ends

/-- A leaf starts with no bracket. -/
theorem Leaf.Legible.head {l : Leaf} (h : l.Legible A) :
    ∃ c cs, l.print = c :: cs ∧ c ∉ ['[', ']', '\x7b'] := by
  cases l with
  | literal text => exact ⟨'"', _, rfl, by decide⟩
  | word text =>
      obtain ⟨c, cs, hcs, hc⟩ := Alphabet.Word.head h
      refine ⟨c, cs, hcs, ?_⟩
      intro hmem
      have brackets : ['[', ']', '\x7b'] ⊆ delimiters := by simp [delimiters]
      exact ne_of_contains hc (brackets hmem) rfl

/-- Every alphabet has the ordinary characters, so a text of these is a word in all of them. -/
theorem word_of_ordinary {text : String} (nonempty : text ≠ "")
    (ordinary : text.toList.all isOrdinary = true) : A.Word text :=
  ⟨nonempty, fun c hc => A.ordinary c (List.all_eq_true.mp ordinary c hc)⟩

/-- The filler of gaps is a word itself; what tells it apart is its text alone. -/
theorem legible_gap : Leaf.gap.Legible A := word_of_ordinary (by decide) (by decide)

/-- Keys are read back in front of their colon, quoted ones and computed ones. -/
theorem readKey_print {key : Leaf} (h : key.Legible A) (rest : List Char) :
    readKey A (key.printKey ++ ':' :: rest) = some (key, ':' :: rest) := by
  cases key with
  | literal text =>
      have plain : skip? ['['] ((Leaf.literal text).print ++ ':' :: rest) = none :=
        skip?_ne (by decide) _ _
      show readKey A ((Leaf.literal text).print ++ ':' :: rest) = _
      rw [readKey, plain]
      exact readLeaf_literal text _
  | word text =>
      have ends : A.Ends (']' :: ':' :: rest) := (A.stops_square _).1
      rw [readKey, Leaf.printKey, List.cons_append, List.append_assoc, skip?, if_pos rfl, skip?]
      show (readLeaf A (text.toList ++ ']' :: ':' :: rest)).bind _ = _
      rw [readLeaf_word h ends]
      rfl

/-! ## One step of the reader

    What the reader does with each kind of term, given what it does with the parts. -/

/-- A leaf that is not called is read as a term. -/
theorem readTerm_leaf {l : Leaf} (h : l.Legible A) (fuel : Nat) {rest : List Char}
    (stops : A.Stops rest) : readTerm A (fuel + 1) (l.print ++ rest) = some (.leaf l, rest) := by
  obtain ⟨c, cs, hcs, hc⟩ := h.head
  -- No leaf starts like an array or an object, and what follows makes no call of it.
  have noArray : skip? ['['] (l.print ++ rest) = none := by
    rw [hcs]
    exact skip?_ne (fun same => hc (by rw [same]; decide)) _ _
  have noObject : skip? ['\x7b'] (l.print ++ rest) = none := by
    rw [hcs]
    exact skip?_ne (fun same => hc (by rw [same]; decide)) _ _
  have noCall : skip? ['('] rest = none := by
    cases rest with
    | nil => rfl
    | cons d ds => exact skip?_ne (fun same => stops.2 (congrArg some same)) _ _
  rw [readTerm, noArray, noObject]
  show (readLeaf A (l.print ++ rest)).bind _ = _
  rw [readLeaf_print h stops.1]
  show (match skip? ['('] rest with | none => _ | some cs => _) = _
  rw [noCall]

/-- An array is read if its first item is, and the others behind it up to the bracket. -/
theorem readTerm_array {first : Term} {others : List Term} {fuel : Nat} {text more rest : List Char}
    (head : ∀ c ∈ text.head?, c ≠ ']')
    (hfirst : readTerm A fuel text = some (first, more))
    (hothers : readMore A fuel more = some (others, ']' :: rest)) :
    readTerm A (fuel + 1) ('[' :: text) = some (.array (first :: others), rest) := by
  have opened : skip? ['['] ('[' :: text) = some text := skip?_append ['['] text
  have nonempty : skip? [']'] text = none := by
    cases text with
    | nil => rfl
    | cons c cs => exact skip?_ne (head c rfl) _ _
  rw [readTerm, opened]
  show (match skip? [']'] text with | some rest => _ | none => _) = _
  rw [nonempty]
  show (readTerm A fuel text).bind _ = _
  rw [hfirst]
  show (readMore A fuel more).bind _ = _
  rw [hothers]
  rfl

/-- An object is read if its first entry is, and the others behind it up to the brace. -/
theorem readTerm_object {first : Entry} {others : List Entry} {fuel : Nat}
    {text more rest : List Char}
    (hfirst : readEntry A fuel text = some (first, more))
    (hothers : readMoreEntries A fuel more = some (others, ' ' :: '\x7d' :: rest)) :
    readTerm A (fuel + 1) ('\x7b' :: ' ' :: text) = some (.object (first :: others), rest) := by
  show (readEntry A fuel text).bind _ = _
  rw [hfirst]
  show (readMoreEntries A fuel more).bind _ = _
  rw [hothers]
  rfl

/-- A call is read if its tag is, and two slots behind it up to the bracket. -/
theorem readTerm_call {tag : Leaf} {props content : Option Term} {fuel : Nat}
    {text second third rest : List Char}
    (htag : readLeaf A text = some (tag, second))
    (hprops : readSlot A fuel second = some (props, third))
    (hcontent : readSlot A fuel third = some (content, ')' :: rest)) :
    readTerm A (fuel + 1) ('h' :: '(' :: text) = some (.call tag props content, rest) := by
  have word : A.Word "h" := word_of_ordinary (by decide) (by decide)
  have ends : A.Ends ('(' :: text) := A.ends_cons text (by decide)
  have function : readLeaf A ('h' :: '(' :: text) = some (.word "h", '(' :: text) :=
    readLeaf_word word ends
  show (readLeaf A ('h' :: '(' :: text)).bind _ = _
  rw [function]
  show (readLeaf A text).bind _ = _
  rw [htag]
  show (readSlot A fuel second).bind _ = _
  rw [hprops]
  show (readSlot A fuel third).bind _ = _
  rw [hcontent]
  rfl

/-- Where the call ends, a slot is empty. -/
theorem readSlot_absent (fuel : Nat) (rest : List Char) :
    readSlot A (fuel + 1) (')' :: rest) = some (none, ')' :: rest) := rfl

/-- Behind a comma stands an argument, or the filler of a gap, which is none. -/
theorem readSlot_present {fuel : Nat} {t : Term} {text rest : List Char}
    (h : readTerm A fuel text = some (t, rest)) :
    readSlot A (fuel + 1) (',' :: ' ' :: text) = some (argument? t, rest) := by
  show (readTerm A fuel text).bind _ = _
  rw [h]
  rfl

theorem readMore_none (fuel : Nat) (rest : List Char) :
    readMore A (fuel + 1) (']' :: rest) = some ([], ']' :: rest) := rfl

theorem readMore_some {fuel : Nat} {item : Term} {others : List Term} {text more rest : List Char}
    (hitem : readTerm A fuel text = some (item, more))
    (hothers : readMore A fuel more = some (others, rest)) :
    readMore A (fuel + 1) (',' :: ' ' :: text) = some (item :: others, rest) := by
  show (readTerm A fuel text).bind _ = _
  rw [hitem]
  show (readMore A fuel more).bind _ = _
  rw [hothers]
  rfl

/-- The blank in front of the closing brace ends the entries, since no comma can start with it. -/
theorem readMoreEntries_none (fuel : Nat) (rest : List Char) :
    readMoreEntries A (fuel + 1) (' ' :: rest) = some ([], ' ' :: rest) := rfl

theorem readMoreEntries_some {fuel : Nat} {entry : Entry} {others : List Entry}
    {text more rest : List Char} (hentry : readEntry A fuel text = some (entry, more))
    (hothers : readMoreEntries A fuel more = some (others, rest)) :
    readMoreEntries A (fuel + 1) (',' :: ' ' :: text) = some (entry :: others, rest) := by
  show (readEntry A fuel text).bind _ = _
  rw [hentry]
  show (readMoreEntries A fuel more).bind _ = _
  rw [hothers]
  rfl

/-- An entry is read if its key and its value are. -/
theorem readEntry_mk {fuel : Nat} {key : Leaf} {value : Term} {text more rest : List Char}
    (hkey : readKey A text = some (key, ':' :: ' ' :: more))
    (hvalue : readTerm A fuel more = some (value, rest)) :
    readEntry A (fuel + 1) text = some (.mk key value, rest) := by
  show (readKey A text).bind _ = _
  rw [hkey]
  show (readTerm A fuel more).bind _ = _
  rw [hvalue]
  rfl

/-! ## Reading what is printed -/

/-- No term starts with a closing bracket. -/
theorem Term.Spelled.head {t : Term} (h : t.Spelled A) : ∃ c cs, t.print = c :: cs ∧ c ≠ ']' := by
  match t with
  | .leaf l =>
      have spelled : l.Spelled A := h
      obtain ⟨c, cs, hcs, hc⟩ := spelled.1.head
      exact ⟨c, cs, hcs, fun same => hc (by rw [same]; decide)⟩
  | .call tag none none => exact ⟨'h', _, rfl, by decide⟩
  | .call tag none (some content) => exact ⟨'h', _, rfl, by decide⟩
  | .call tag (some props) none => exact ⟨'h', _, rfl, by decide⟩
  | .call tag (some props) (some content) => exact ⟨'h', _, rfl, by decide⟩
  | .array [] => exact ⟨'[', _, rfl, by decide⟩
  | .array (first :: rest) => exact ⟨'[', _, rfl, by decide⟩
  | .object [] => exact ⟨'\x7b', _, rfl, by decide⟩
  | .object (first :: rest) => exact ⟨'\x7b', _, rfl, by decide⟩

/-- No argument but a gap is read as one. -/
theorem argument?_spelled {t : Term} (h : t.Spelled A) : argument? t = some t := by
  match t with
  | .leaf (.word text) =>
      have spelled : (Leaf.word text).Spelled A := h
      have kept : text ≠ "null" := fun same => spelled.2 (congrArg Leaf.word same)
      rw [argument?, if_neg kept]
  | .leaf (.literal text) => rfl
  | .call tag props content => rfl
  | .array items => rfl
  | .object entries => rfl

/-- What follows an item goes on with no word. -/
theorem stops_printMore (A : Alphabet) (items : List Term) (rest : List Char) :
    A.Stops (printMore items ++ ']' :: rest) := by
  cases items with
  | nil => exact A.stops_square rest
  | cons item items => exact A.stops_comma _

/-- Whether or not entries follow, the value in front of them ends where they begin. -/
theorem stops_printMoreEntries (A : Alphabet) (entries : List Entry) (rest : List Char) :
    A.Stops (printMoreEntries entries ++ ' ' :: rest) := by
  cases entries with
  | nil => exact A.stops_blank rest
  | cons entry entries => exact A.stops_comma _

mutual

/-- **A PRINTED TERM IS READ BACK**, and what stands behind it is left. -/
theorem readTerm_print : ∀ (t : Term) (fuel : Nat) (rest : List Char), t.Spelled A →
    A.Stops rest → t.print.length < fuel → readTerm A fuel (t.print ++ rest) = some (t, rest)
  | _, 0, _, _, _, enough => absurd enough (Nat.not_lt_zero _)
  | .leaf l, fuel + 1, rest, spelled, stops, _ => by
      have legible : l.Spelled A := spelled
      exact readTerm_leaf legible.1 fuel stops
  -- The slots are read with one unit of fuel less than the call and their terms with two.
  | .call tag none none, fuel + 1, rest, spelled, _, enough => by
      have htag := readLeaf_print spelled.1.1 (A.stops_round rest).1
      simp only [Term.print, List.length_cons, List.length_append, List.length_nil] at enough
      obtain ⟨fuel, rfl⟩ : ∃ n, fuel = n + 1 := ⟨fuel - 1, by omega⟩
      simp only [Term.print, List.cons_append, List.append_assoc, List.nil_append]
      exact readTerm_call htag (readSlot_absent fuel rest) (readSlot_absent fuel rest)
  | .call tag (some props) none, fuel + 1, rest, spelled, _, enough => by
      obtain ⟨htag, hprops, -⟩ := spelled
      have given : props.Spelled A := hprops
      simp only [Term.print, List.length_cons, List.length_append, List.length_nil] at enough
      obtain ⟨fuel, rfl⟩ : ∃ n, fuel = n + 1 := ⟨fuel - 1, by omega⟩
      have readProps := readTerm_print props fuel _ given (A.stops_round rest) (by omega)
      have slot := readSlot_present readProps
      rw [argument?_spelled given] at slot
      have readTag := readLeaf_print htag.1 (A.stops_comma (' ' :: (props.print ++ ')' :: rest))).1
      simp only [Term.print, List.cons_append, List.append_assoc, List.nil_append]
      exact readTerm_call readTag slot (readSlot_absent fuel rest)
  | .call tag none (some content), fuel + 1, rest, spelled, _, enough => by
      obtain ⟨htag, -, hcontent⟩ := spelled
      have given : content.Spelled A := hcontent
      simp only [Term.print, List.length_cons, List.length_append, List.length_nil] at enough
      obtain ⟨fuel, rfl⟩ : ∃ n, fuel = n + 2 := ⟨fuel - 2, by omega⟩
      have readContent :=
        readTerm_print content (fuel + 1) _ given (A.stops_round rest) (by omega)
      have slot := readSlot_present readContent
      rw [argument?_spelled given] at slot
      -- `null` is read as an argument and says that there are no props.
      have readGap := readTerm_leaf (A := A) legible_gap fuel
        (A.stops_comma (' ' :: (content.print ++ ')' :: rest)))
      have gap : argument? (.leaf .gap) = none := rfl
      have skipped := readSlot_present readGap
      rw [gap] at skipped
      have readTag := readLeaf_print htag.1
        (A.stops_comma (' ' :: (Leaf.gap.print ++ ',' :: ' ' :: (content.print ++ ')' :: rest)))).1
      simp only [Term.print, List.cons_append, List.append_assoc, List.nil_append]
      exact readTerm_call readTag skipped slot
  | .call tag (some props) (some content), fuel + 1, rest, spelled, _, enough => by
      obtain ⟨htag, hprops, hcontent⟩ := spelled
      have givenProps : props.Spelled A := hprops
      have givenContent : content.Spelled A := hcontent
      simp only [Term.print, List.length_cons, List.length_append, List.length_nil] at enough
      obtain ⟨fuel, rfl⟩ : ∃ n, fuel = n + 1 := ⟨fuel - 1, by omega⟩
      have readContent := readTerm_print content fuel _ givenContent (A.stops_round rest) (by omega)
      have second := readSlot_present readContent
      rw [argument?_spelled givenContent] at second
      have readProps := readTerm_print props fuel _ givenProps
        (A.stops_comma (' ' :: (content.print ++ ')' :: rest))) (by omega)
      have first := readSlot_present readProps
      rw [argument?_spelled givenProps] at first
      have readTag := readLeaf_print htag.1
        (A.stops_comma (' ' :: (props.print ++ ',' :: ' ' :: (content.print ++ ')' :: rest)))).1
      simp only [Term.print, List.cons_append, List.append_assoc, List.nil_append]
      exact readTerm_call readTag first second
  | .array [], fuel + 1, rest, _, _, _ => rfl
  | .array (first :: others), fuel + 1, rest, spelled, _, enough => by
      obtain ⟨hfirst, hothers⟩ := spelled
      -- What tells an array with items from an empty one is that no item starts like its end.
      obtain ⟨c, cs, hc, close⟩ := hfirst.head
      simp only [Term.print, List.length_cons, List.length_append, List.length_nil] at enough
      have readFirst := readTerm_print first fuel _ hfirst (stops_printMore A others rest)
        (by omega)
      have readOthers := readMore_print others fuel rest hothers (by omega)
      simp only [Term.print, List.cons_append, List.append_assoc, List.nil_append]
      refine readTerm_array ?_ readFirst readOthers
      rw [hc]
      intro d hd
      rw [← Option.some.inj hd]
      exact close
  | .object [], fuel + 1, rest, _, _, _ => rfl
  | .object (first :: others), fuel + 1, rest, spelled, _, enough => by
      obtain ⟨hfirst, hothers⟩ := spelled
      simp only [Term.print, List.length_cons, List.length_append, List.length_nil] at enough
      have stops := stops_printMoreEntries A others ('\x7d' :: rest)
      have readFirst := readEntry_print first fuel _ hfirst stops (by omega)
      have readOthers := readMoreEntries_print others fuel ('\x7d' :: rest) hothers (by omega)
      simp only [Term.print, List.cons_append, List.append_assoc, List.nil_append]
      exact readTerm_object readFirst readOthers

theorem readMore_print : ∀ (items : List Term) (fuel : Nat) (rest : List Char),
    SpelledAll A items → (printMore items).length < fuel →
    readMore A fuel (printMore items ++ ']' :: rest) = some (items, ']' :: rest)
  | _, 0, _, _, enough => absurd enough (Nat.not_lt_zero _)
  | [], fuel + 1, rest, _, _ => readMore_none fuel rest
  | item :: others, fuel + 1, rest, spelled, enough => by
      obtain ⟨hitem, hothers⟩ := spelled
      simp only [printMore, List.length_cons, List.length_append] at enough
      have readItem := readTerm_print item fuel _ hitem (stops_printMore A others rest) (by omega)
      have readOthers := readMore_print others fuel rest hothers (by omega)
      simp only [printMore, List.cons_append, List.append_assoc]
      exact readMore_some readItem readOthers

theorem readEntry_print : ∀ (entry : Entry) (fuel : Nat) (rest : List Char), entry.Spelled A →
    A.Stops rest → entry.print.length < fuel →
    readEntry A fuel (entry.print ++ rest) = some (entry, rest)
  | _, 0, _, _, _, enough => absurd enough (Nat.not_lt_zero _)
  | .mk key value, fuel + 1, rest, spelled, stops, enough => by
      obtain ⟨hkey, hvalue⟩ := spelled
      simp only [Entry.print, List.length_cons, List.length_append] at enough
      have readValue := readTerm_print value fuel rest hvalue stops (by omega)
      simp only [Entry.print, List.cons_append, List.append_assoc]
      exact readEntry_mk (readKey_print hkey.1 _) readValue

/-- Entries behind commas are read back, with more fuel than they have characters. -/
theorem readMoreEntries_print : ∀ (entries : List Entry) (fuel : Nat) (rest : List Char),
    SpelledEntries A entries → (printMoreEntries entries).length < fuel →
    readMoreEntries A fuel (printMoreEntries entries ++ ' ' :: rest) = some (entries, ' ' :: rest)
  | _, 0, _, _, enough => absurd enough (Nat.not_lt_zero _)
  | [], fuel + 1, rest, _, _ => readMoreEntries_none fuel rest
  | entry :: others, fuel + 1, rest, spelled, enough => by
      obtain ⟨hentry, hothers⟩ := spelled
      simp only [printMoreEntries, List.length_cons, List.length_append] at enough
      have stops := stops_printMoreEntries A others rest
      have readFirst := readEntry_print entry fuel _ hentry stops (by omega)
      have readOthers := readMoreEntries_print others fuel rest hothers (by omega)
      simp only [printMoreEntries, List.cons_append, List.append_assoc]
      exact readMoreEntries_some readFirst readOthers

end

/-- **WHAT IS PRINTED IS READ BACK**, whatever text follows. -/
theorem Term.read_print {t : Term} (spelled : t.Spelled A) {text rest : String}
    (printed : text.toList = t.print) (stops : A.Stops rest.toList) :
    Term.read A (text ++ rest) = some (t, rest) := by
  have enough : t.print.length < (t.print ++ rest.toList).length + 1 := by
    rw [List.length_append]
    omega
  rw [Term.read, String.toList_append, printed, readTerm_print t _ _ spelled stops enough]
  show some (t, String.ofList rest.toList) = some (t, rest)
  rw [String.ofList_toList]

end Vdom.Emit
