import Mathlib.Data.List.DropRight
import Vdom.Proofs.Json.Scanning
/-!
# Skipping what the grammar allows — values that nobody asks for, at any depth

A value without a taker is passed over token by token, its open brackets on a stack. Here the
tokens are counted against the grammar: a text that says a value leads from "a value is due" to
"what follows is due", over the same stack, in no more steps than it has characters. So the length
of the text is enough fuel, however deep the value is.

* **`Skip.Reaches`** — so many tokens on, the skip stands there.
* **`Written.passes`** — the passage over one value, by recursion on how it is written.
* **`skipValue_written`** — a value is skipped, and nothing of what follows it.
-/

namespace Vdom.Json

/-! ## Where a value starts -/

/-- A first character of values. -/
def Starts (c : Char) : Prop := c ∈ ['n', 't', 'f', '"', '[', '\x7b', '-'] ∨ isDigit c = true

theorem isSpace_digit {c : Char} (digit : isDigit c = true) : isSpace c = false := by
  rw [Bool.eq_false_iff]
  intro space
  have blank := isSpace_iff.mp space
  simp only [List.mem_cons, List.not_mem_nil, or_false] at blank
  rcases blank with rfl | rfl | rfl | rfl <;> exact absurd digit (by decide)

/-- No value starts with a blank. -/
theorem Starts.not_space {c : Char} (starts : Starts c) : isSpace c = false := by
  rcases starts with known | digit
  · simp only [List.mem_cons, List.not_mem_nil, or_false] at known
    rcases known with rfl | rfl | rfl | rfl | rfl | rfl | rfl <;> rfl
  · exact isSpace_digit digit

/-- No value starts like the end of an array, so an array that goes on is not empty. -/
theorem Starts.ne_closing {c : Char} (starts : Starts c) : c ≠ ']' := by
  rintro rfl
  exact absurd starts (by simp [Starts, isDigit])

/-- A number starts with a digit or a sign. -/
theorem Spelled.starts {cs : List Char} (spelled : Spelled cs) :
    ∃ c rest, cs = c :: rest ∧ (c = '-' ∨ isDigit c = true) := by
  cases spelled with
  | positive unsigned =>
      obtain ⟨d, others, rfl, digit⟩ := unsigned.starts
      exact ⟨d, others, rfl, .inr digit⟩
  | negative _ => exact ⟨'-', _, rfl, .inl rfl⟩

/-- Every text that says a value starts as values do. -/
theorem Written.starts {t : Tree} {cs : List Char} (written : Written t cs) :
    ∃ c rest, cs = c :: rest ∧ Starts c := by
  cases written with
  | number spelled =>
      obtain ⟨c, rest, rfl, h⟩ := spelled.starts
      refine ⟨c, rest, rfl, h.imp ?_ id⟩
      rintro rfl
      decide
  | _ => exact ⟨_, _, rfl, .inl (by decide)⟩

theorem Written.dense {t : Tree} {cs : List Char} (written : Written t cs) : Dense cs := by
  obtain ⟨c, rest, rfl, starts⟩ := written.starts
  exact ⟨c, rest, rfl, starts.not_space⟩

/-! ## Steps of a skip -/

/-- Where a skip stands. -/
structure Skip where
  due : Due
  stack : List Bracket
  text : List Char

/-- So many tokens on, the skip stands there. -/
def Skip.Reaches (n : Nat) (s s' : Skip) : Prop :=
  ∀ fuel, skipTokens (fuel + n) s.due s.stack s.text = skipTokens fuel s'.due s'.stack s'.text

/-- Steps of a skip add up, so that fuel can be counted part by part. -/
theorem Skip.Reaches.trans {n m : Nat} {a b c : Skip} (first : a.Reaches n b)
    (second : b.Reaches m c) : a.Reaches (n + m) c := by
  intro fuel
  rw [Nat.add_comm n, ← Nat.add_assoc, first, second]

/-- Between brackets, blanks before what follows are passed over with it. -/
theorem reaches_blank {blank : List Char} (hb : Blank blank) (b : Bracket)
    (stack : List Bracket) (cs : List Char) :
    Skip.Reaches 0 ⟨.next, b :: stack, blank ++ cs⟩ ⟨.next, b :: stack, cs⟩ := by
  intro fuel
  cases fuel with
  | zero => cases b <;> rfl
  | succ fuel => cases b <;> simp only [skipTokens, skipSpace_blank hb]

/-- A value without brackets is one step, if it is skipped as a scalar. -/
theorem reaches_scalar {before cs rest : List Char} (hb : Blank before) (dense : Dense cs)
    (scalar : ∀ c ∈ cs.head?, c ≠ '[' ∧ c ≠ '\x7b')
    (skipped : skipScalar (cs ++ rest) = .ok rest) (stack : List Bracket) :
    Skip.Reaches 1 ⟨.value, stack, before ++ (cs ++ rest)⟩ ⟨.next, stack, rest⟩ := by
  intro fuel
  obtain ⟨c, tail, rfl, space⟩ := dense
  obtain ⟨noArray, noObject⟩ := scalar c rfl
  rw [List.cons_append] at skipped
  simp only [List.cons_append, skipTokens, skipSpace_before hb ⟨c, tail ++ rest, rfl, space⟩]
  split
  · exact absurd (List.cons.inj ‹_›).1 noArray
  · exact absurd (List.cons.inj ‹_›).1 noObject
  · rw [skipped]

/-- An empty array is one step as well: it is never put on the stack. -/
theorem reaches_empty_array {before blank : List Char} (hb : Blank before)
    (inside : Blank blank) (stack : List Bracket) (rest : List Char) :
    Skip.Reaches 1 ⟨.value, stack, before ++ '[' :: (blank ++ ']' :: rest)⟩
      ⟨.next, stack, rest⟩ := by
  intro fuel
  simp only [skipTokens, skipSpace_before hb ⟨'[', _, rfl, rfl⟩,
    skipSpace_before inside ⟨']', _, rfl, rfl⟩]

theorem reaches_empty_object {before blank : List Char} (hb : Blank before)
    (inside : Blank blank) (stack : List Bracket) (rest : List Char) :
    Skip.Reaches 1 ⟨.value, stack, before ++ '\x7b' :: (blank ++ '\x7d' :: rest)⟩
      ⟨.next, stack, rest⟩ := by
  intro fuel
  simp only [skipTokens, skipSpace_before hb ⟨'\x7b', _, rfl, rfl⟩,
    skipSpace_before inside ⟨'\x7d', _, rfl, rfl⟩]

theorem skipSpace_twice (cs : List Char) : skipSpace (skipSpace cs) = skipSpace cs :=
  List.dropWhile_idempotent isSpace cs

/-- Blanks in front of a value may be taken away beforehand. -/
theorem skipTokens_trimmed (fuel : Nat) (stack : List Bracket) (cs : List Char) :
    skipTokens fuel .value stack (skipSpace cs) = skipTokens fuel .value stack cs :=
  skipTokens_congr fuel stack (skipSpace_twice cs)

/-- An array with an entry is opened. -/
theorem reaches_array {before cs : List Char} (hb : Blank before)
    (entry : ∃ c rest, skipSpace cs = c :: rest ∧ Starts c) (stack : List Bracket) :
    Skip.Reaches 1 ⟨.value, stack, before ++ '[' :: cs⟩ ⟨.value, .array :: stack, cs⟩ := by
  intro fuel
  obtain ⟨c, rest, first, starts⟩ := entry
  simp only [skipTokens, skipSpace_before hb ⟨'[', cs, rfl, rfl⟩]
  rw [← skipTokens_trimmed fuel _ cs, first]
  split
  · exact absurd ‹c :: rest = []› (List.cons_ne_nil c rest)
  · exact absurd (List.cons.inj ‹_›).1 starts.ne_closing
  · rfl

theorem skipKey_trimmed (cs : List Char) : skipKey (skipSpace cs) = skipKey cs := by
  rw [skipKey, skipSpace_twice, ← skipKey]

/-- An object with a member is opened, and the name of the member passed over. -/
theorem reaches_object {before cs rest : List Char} (hb : Blank before)
    (key : skipKey cs = .ok rest) (stack : List Bracket) :
    Skip.Reaches 1 ⟨.value, stack, before ++ '\x7b' :: cs⟩ ⟨.value, .object :: stack, rest⟩ := by
  intro fuel
  simp only [skipTokens, skipSpace_before hb ⟨'\x7b', cs, rfl, rfl⟩]
  split
  · rename_i closed
    rw [skipKey, closed] at key
    cases key
  · rw [skipKey_trimmed, key]

/-- Behind a comma in an array a value is due. -/
theorem reaches_comma (stack : List Bracket) (cs : List Char) :
    Skip.Reaches 1 ⟨.next, .array :: stack, ',' :: cs⟩ ⟨.value, .array :: stack, cs⟩ :=
  fun _ => rfl

/-- Behind a comma in an object a name is passed over, and then a value is due. -/
theorem reaches_comma_key {cs rest : List Char} (key : skipKey cs = .ok rest)
    (stack : List Bracket) :
    Skip.Reaches 1 ⟨.next, .object :: stack, ',' :: cs⟩ ⟨.value, .object :: stack, rest⟩ := by
  intro fuel
  simp only [skipTokens, skipSpace_dense ⟨',', cs, rfl, rfl⟩, key]

/-- The end of an array takes its bracket off the stack. -/
theorem reaches_close_array (stack : List Bracket) (rest : List Char) :
    Skip.Reaches 1 ⟨.next, .array :: stack, ']' :: rest⟩ ⟨.next, stack, rest⟩ :=
  fun _ => rfl

theorem reaches_close_object (stack : List Bracket) (rest : List Char) :
    Skip.Reaches 1 ⟨.next, .object :: stack, '\x7d' :: rest⟩ ⟨.next, stack, rest⟩ :=
  fun _ => rfl

/-! ## Passing over a value -/

/-- Behind its blanks, an entry starts as values do. -/
theorem Entry.starts {t : Tree} {cs : List Char} (entry : Entry t cs) (rest : List Char) :
    ∃ c tail, skipSpace (cs ++ rest) = c :: tail ∧ Starts c := by
  obtain @⟨_, before, cs, after, hb, written, -⟩ := entry
  obtain ⟨c, tail, rfl, starts⟩ := written.starts
  refine ⟨c, tail ++ after ++ rest, ?_, starts⟩
  rw [List.append_assoc, skipSpace_before hb]
  · simp
  · exact ⟨c, tail ++ after ++ rest, by simp, starts.not_space⟩

theorem Entries.starts {ts : List Tree} {cs : List Char} (entries : Entries ts cs)
    (rest : List Char) : ∃ c tail, skipSpace (cs ++ rest) = c :: tail ∧ Starts c := by
  cases entries with
  | last entry => exact entry.starts rest
  | more entry _ =>
      rw [List.append_assoc]
      exact entry.starts _

/-- A name is passed over with the colon behind it. -/
theorem skipKey_spelled {before after key : List Char} {name : Points} (hb : Blank before)
    (spelled : Spells name key) (ha : Blank after) (rest : List Char) :
    skipKey (before ++ '"' :: (key ++ '"' :: (after ++ ':' :: rest))) = .ok rest := by
  rw [skipKey, skipSpace_before hb ⟨'"', _, rfl, rfl⟩]
  simp only [skipText_spelled spelled, bind, Except.bind, skipColon_blank ha]

theorem skipScalar_first {c : Char} (first : c = '-' ∨ isDigit c = true) (rest : List Char) :
    skipScalar (c :: rest) = (readNumeral .malformed (c :: rest)).map Prod.snd := by
  rw [skipScalar, if_pos]
  · simpa using first
  all_goals
    rintro rfl
    exact absurd first (by decide)

/-- A number is skipped up to what ends it. -/
theorem skipScalar_number {cs rest : List Char} (spelled : Spelled cs) (stop : Ends rest) :
    skipScalar (cs ++ rest) = .ok rest := by
  obtain ⟨numeral, read⟩ := readNumeral_spelled .malformed spelled stop
  obtain ⟨c, tail, rfl, first⟩ := spelled.starts
  rw [List.cons_append] at read ⊢
  rw [skipScalar_first first, read]
  rfl

/-- A literal is skipped up to its closing quote. -/
theorem skipScalar_text {ps : Points} {cs : List Char} (spelled : Spells ps cs)
    (rest : List Char) : skipScalar ('"' :: (cs ++ ['"']) ++ rest) = .ok rest := by
  rw [List.cons_append, List.append_assoc]
  exact skipText_spelled spelled rest

theorem Spelled.no_bracket {cs : List Char} (spelled : Spelled cs) :
    ∀ c ∈ cs.head?, c ≠ '[' ∧ c ≠ '\x7b' := by
  obtain ⟨c, tail, rfl, first⟩ := spelled.starts
  rintro _ ⟨⟩
  constructor <;> rintro rfl <;> exact absurd first (by decide)

/-- A text leads over its value in no more steps than it has characters. -/
def Passes (cs : List Char) : Prop :=
  ∃ n ≤ cs.length, ∀ before stack rest, Blank before → Delimited rest →
    Skip.Reaches n ⟨.value, stack, before ++ (cs ++ rest)⟩ ⟨.next, stack, rest⟩

/-- The same with blanks around the value, which stands in brackets. -/
def PassesEntry (cs : List Char) : Prop :=
  ∃ n ≤ cs.length, ∀ b stack rest, Delimited rest →
    Skip.Reaches n ⟨.value, b :: stack, cs ++ rest⟩ ⟨.next, b :: stack, rest⟩

/-- The same for entries up to the bracket behind them. -/
def PassesEntries (cs : List Char) : Prop :=
  ∃ n ≤ cs.length + 1, ∀ stack rest,
    Skip.Reaches n ⟨.value, .array :: stack, cs ++ ']' :: rest⟩ ⟨.next, stack, rest⟩

/-- The same for a member, from behind its name. -/
def PassesMember (cs : List Char) : Prop :=
  ∃ value n, n ≤ cs.length ∧ (∀ rest, skipKey (cs ++ rest) = .ok (value ++ rest)) ∧
    ∀ stack rest, Delimited rest →
      Skip.Reaches n ⟨.value, .object :: stack, value ++ rest⟩ ⟨.next, .object :: stack, rest⟩

/-- The same for members, from behind the first name up to the bracket behind them. -/
def PassesMembers (cs : List Char) : Prop :=
  ∃ values n, n ≤ cs.length + 1 ∧ (∀ rest, skipKey (cs ++ rest) = .ok (values ++ rest)) ∧
    ∀ stack rest,
      Skip.Reaches n ⟨.value, .object :: stack, values ++ '\x7d' :: rest⟩ ⟨.next, stack, rest⟩

/-- A value without brackets is passed over, if it is skipped as a scalar. -/
theorem passes_scalar {cs : List Char} (dense : Dense cs)
    (scalar : ∀ c ∈ cs.head?, c ≠ '[' ∧ c ≠ '\x7b')
    (skipped : ∀ rest, Delimited rest → skipScalar (cs ++ rest) = .ok rest) : Passes cs := by
  refine ⟨1, ?_, fun before stack rest hb delimited =>
    reaches_scalar hb dense scalar (skipped rest delimited) stack⟩
  obtain ⟨c, tail, rfl, -⟩ := dense
  exact Nat.succ_le_succ (Nat.zero_le _)

theorem passes_empty_array {blank : List Char} (inside : Blank blank) :
    Passes ('[' :: (blank ++ [']'])) := by
  refine ⟨1, Nat.succ_le_succ (Nat.zero_le _), fun before stack rest hb _ => ?_⟩
  rw [List.cons_append, List.append_assoc]
  exact reaches_empty_array hb inside stack rest

theorem passes_empty_object {blank : List Char} (inside : Blank blank) :
    Passes ('\x7b' :: (blank ++ ['\x7d'])) := by
  refine ⟨1, Nat.succ_le_succ (Nat.zero_le _), fun before stack rest hb _ => ?_⟩
  rw [List.cons_append, List.append_assoc]
  exact reaches_empty_object hb inside stack rest

/-- An array is passed over if its entries are: one step more opens it, and one closes it. -/
theorem passes_array {ts : List Tree} {cs : List Char} (entries : Entries ts cs)
    (passes : PassesEntries cs) : Passes ('[' :: (cs ++ [']'])) := by
  obtain ⟨n, small, reaches⟩ := passes
  refine ⟨1 + n, by simp; omega, fun before stack rest hb _ => ?_⟩
  rw [List.cons_append, List.append_assoc]
  exact (reaches_array hb (entries.starts _) stack).trans (reaches stack rest)

theorem passes_object {cs : List Char} (passes : PassesMembers cs) :
    Passes ('\x7b' :: (cs ++ ['\x7d'])) := by
  obtain ⟨values, n, small, key, reaches⟩ := passes
  refine ⟨1 + n, by simp; omega, fun before stack rest hb _ => ?_⟩
  rw [List.cons_append, List.append_assoc]
  exact (reaches_object hb (key _) stack).trans (reaches stack rest)

/-- Blanks around a value cost no step. -/
theorem Passes.entry {before cs after : List Char} (hb : Blank before) (ha : Blank after)
    (passes : Passes cs) : PassesEntry (before ++ (cs ++ after)) := by
  obtain ⟨n, small, reaches⟩ := passes
  refine ⟨n, by simp; omega, fun b stack rest delimited => ?_⟩
  rw [List.append_assoc, List.append_assoc]
  exact (reaches before (b :: stack) _ hb (delimited.behind ha)).trans
    (reaches_blank ha b stack rest)

/-- The last entry leads to the end of the array. -/
theorem PassesEntry.last {cs : List Char} (passes : PassesEntry cs) : PassesEntries cs := by
  obtain ⟨n, small, reaches⟩ := passes
  refine ⟨n + 1, by omega, fun stack rest => ?_⟩
  exact (reaches .array stack _ (delimited_cons (by decide) rest)).trans
    (reaches_close_array stack rest)

/-- An entry with a comma behind it leads to the comma, and that to the next entry. -/
theorem PassesEntry.more {cs others : List Char} (passes : PassesEntry cs)
    (behind : PassesEntries others) : PassesEntries (cs ++ ',' :: others) := by
  obtain ⟨n, small, reaches⟩ := passes
  obtain ⟨m, few, closes⟩ := behind
  refine ⟨n + (1 + m), by simp; omega, fun stack rest => ?_⟩
  rw [List.append_assoc]
  exact (reaches .array stack _ (delimited_cons (by decide) _)).trans
    ((reaches_comma stack _).trans (closes stack rest))

/-- A name adds no step to that of its value. -/
theorem PassesEntry.member {name : Points} {before after key cs : List Char}
    (hb : Blank before) (spelled : Spells name key) (ha : Blank after)
    (passes : PassesEntry cs) :
    PassesMember (before ++ '"' :: (key ++ '"' :: (after ++ ':' :: cs))) := by
  obtain ⟨n, small, reaches⟩ := passes
  refine ⟨cs, n, by simp; omega, fun rest => ?_, fun stack => reaches .object stack⟩
  simpa using skipKey_spelled hb spelled ha (cs ++ rest)

theorem PassesMember.last {cs : List Char} (passes : PassesMember cs) : PassesMembers cs := by
  obtain ⟨value, n, small, key, reaches⟩ := passes
  refine ⟨value, n + 1, by omega, key, fun stack rest => ?_⟩
  exact (reaches stack _ (delimited_cons (by decide) rest)).trans
    (reaches_close_object stack rest)

/-- A member with a comma behind it leads to the name behind the comma. -/
theorem PassesMember.more {cs others : List Char} (passes : PassesMember cs)
    (behind : PassesMembers others) : PassesMembers (cs ++ ',' :: others) := by
  obtain ⟨value, n, small, key, reaches⟩ := passes
  obtain ⟨values, m, few, nextKey, closes⟩ := behind
  refine ⟨value ++ ',' :: others, n + (1 + m), by simp; omega, fun rest => ?_, fun stack rest => ?_⟩
  · rw [List.append_assoc, List.append_assoc]
    exact key _
  · rw [List.append_assoc]
    exact (reaches stack _ (delimited_cons (by decide) _)).trans
      ((reaches_comma_key (nextKey _) stack).trans (closes stack rest))

mutual

/-- **A VALUE IS PASSED OVER**, token by token, whatever its depth. -/
theorem Written.passes {t : Tree} {cs : List Char} : Written t cs → Passes cs
  | .null => passes_scalar ⟨_, _, rfl, rfl⟩ (by simp) fun _ _ => rfl
  | .yes => passes_scalar ⟨_, _, rfl, rfl⟩ (by simp) fun _ _ => rfl
  | .no => passes_scalar ⟨_, _, rfl, rfl⟩ (by simp) fun _ _ => rfl
  | .number spelled =>
      passes_scalar (Written.number spelled).dense spelled.no_bracket fun _ delimited =>
        skipScalar_number spelled delimited.ends
  | .text spelled =>
      passes_scalar ⟨_, _, rfl, rfl⟩ (by simp) fun rest _ => skipScalar_text spelled rest
  | .noEntries inside => passes_empty_array inside
  | .array entries => passes_array entries entries.passes
  | .noMembers inside => passes_empty_object inside
  | .object members => passes_object members.passes

theorem Entry.passes {t : Tree} {cs : List Char} : Entry t cs → PassesEntry cs
  | .mk before written after => written.passes.entry before after

theorem Entries.passes {ts : List Tree} {cs : List Char} : Entries ts cs → PassesEntries cs
  | .last entry => entry.passes.last
  | .more entry entries => entry.passes.more entries.passes

theorem Member.passes {m : Points × Tree} {cs : List Char} : Member m cs → PassesMember cs
  | .mk before spelled after entry => entry.passes.member before spelled after

theorem MemberList.passes {ms : Members} {cs : List Char} : MemberList ms cs → PassesMembers cs
  | .last member => member.passes.last
  | .more member members => member.passes.more members.passes

end

/-- **WHAT NOBODY ASKS FOR IS SKIPPED**: the text of a value, and nothing of what follows. -/
theorem skipValue_written {t : Tree} {before cs rest : List Char} (hb : Blank before)
    (written : Written t cs) (delimited : Delimited rest) :
    skipValue (before ++ (cs ++ rest)) = .ok rest := by
  obtain ⟨n, small, reaches⟩ := written.passes
  have fuel : (before ++ (cs ++ rest)).length + 1
      = (before.length + (cs.length - n) + rest.length + 1) + n := by
    simp only [List.length_append]
    omega
  rw [skipValue, fuel]
  exact reaches before [] rest hb delimited _

end Vdom.Json
