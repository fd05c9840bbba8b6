import Vdom.Json.Record
import Vdom.Proofs.Json.Skipped
/-!
# Reading what the grammar allows — scalars, records and documents

A reader accepts a value as some result if it yields that result from every text that says the
value, and leaves what follows. For a record, the members of an object change its draft one after
another: a member of a known name is read into it, any other leaves it as it is (`Record.Takes`).
What the members make of the draft (`Record.Fills`) is then what the record reads, whatever the
layout.

* **`Accepts`** — all the ways of writing a value are read alike.
* **`accepts_bool`**, **`accepts_string`**, **`accepts_word`** — scalars.
* **`Record.accepts`** — records written as objects.
* **`Accepts.document`** — whole documents.
-/

namespace Vdom.Json

variable {α δ : Type}

/-- A reader yields `a` from every text that says `t`. -/
def Accepts (read : Reader α) (t : Tree) (a : α) : Prop :=
  ∀ before cs rest, Blank before → Written t cs → Delimited rest →
    read (before ++ (cs ++ rest)) = .ok (a, rest)

/-- What is done with a value after reading does not change what is accepted. -/
theorem Accepts.map {β : Type} {read : Reader α} {t : Tree} {a : α} (accepts : Accepts read t a)
    (f : α → β) : Accepts (fun cs => (read cs).map fun (a, rest) => (f a, rest)) t (f a) := by
  intro before cs rest hb written delimited
  simp only [accepts before cs rest hb written delimited, Except.map]

/-! ## Scalars -/

theorem accepts_bool (b : Bool) : Accepts readBool (.bool b) b := by
  intro before cs rest hb written _
  rw [readBool, skipSpace_before hb (written.dense.append rest)]
  cases written with
  | yes => rfl
  | no => rfl

/-- A literal that says a string is read as this string, whatever escapes it has. -/
theorem readText_points {s : String} {cs : List Char} (spelled : Spells (points s) cs)
    (rest : List Char) : readText (cs ++ ['"'] ++ rest) = .ok (s.toList, rest) := by
  rw [List.append_assoc]
  exact readText_spelled spelled rest s.toList rfl

/-- A string needs no delimiter behind it: its literal ends itself. -/
theorem readStringAs_written (wanted : String) {s : String} {before cs : List Char}
    (hb : Blank before) (written : Written (.text (points s)) cs) (rest : List Char) :
    readStringAs wanted (before ++ (cs ++ rest)) = .ok (s, rest) := by
  rw [readStringAs, skipSpace_before hb (written.dense.append rest)]
  cases written with
  | text spelled =>
      simp only [List.cons_append, readText_points spelled, Except.map, String.ofList_toList]

theorem readString_written {s : String} {before cs : List Char} (hb : Blank before)
    (written : Written (.text (points s)) cs) (rest : List Char) :
    readString (before ++ (cs ++ rest)) = .ok (s, rest) :=
  readStringAs_written _ hb written rest

/-- Strings are accepted however they are escaped. -/
theorem accepts_string (s : String) : Accepts readString (.text (points s)) s :=
  fun _ _ rest hb written _ => readString_written hb written rest

/-- A value other than `null` is read as itself where `null` might stand. -/
theorem accepts_nullable_string (s : String) :
    Accepts (readNullable readString) (.text (points s)) (some s) := by
  intro before cs rest hb written delimited
  have read := accepts_string s [] cs rest blank_nil written delimited
  rw [readNullable, skipSpace_before hb (written.dense.append rest)]
  cases written with
  | text spelled => exact congrArg (Except.map _) read

/-! ## Words -/

theorem isDigit_eq (c : Char) : isDigit c = c.isDigit := rfl

/-- Of the digits, only that of zero is a zero. -/
theorem digitChar_ne_zero : ∀ n < 10, 0 < n → Nat.digitChar n ≠ '0' := by decide

/-- Only zero is written with a zero in front. -/
theorem head_toDigits (n : Nat) (pos : 0 < n) : (Nat.toDigits 10 n).head? ≠ some '0' := by
  -- Digit by digit from the last: the first one is that of a number below ten.
  induction n using Nat.strongRecOn with
  | ind n ih =>
      rcases Nat.lt_or_ge n 10 with single | more
      · rw [Nat.toDigits_of_lt_base single]
        exact fun same => digitChar_ne_zero n single pos (Option.some.inj same)
      · rw [Nat.toDigits_of_base_le (by omega) more,
          List.head?_append_of_ne_nil _ Nat.toDigits_ne_nil]
        exact ih (n / 10) (by omega) (by omega)

/-- The digits of a number start with no zero, unless it is zero. -/
theorem whole_digits (n : Nat) : Whole (Nat.toDigits 10 n) := by
  refine ⟨⟨Nat.toDigits_ne_nil, fun c there => ?_⟩, fun zero => ?_⟩
  · rw [isDigit_eq]
    exact Nat.isDigit_of_mem_toDigits (by omega) (by omega) there
  · rcases Nat.eq_zero_or_pos n with rfl | pos
    · rfl
    · exact absurd zero (head_toDigits n pos)

/-- The digits of a number of 64 bits are worth this number. -/
theorem value_digits {n : Nat} (small : n < UInt64.size) :
    (Numeral.mk false (Nat.toDigits 10 n) none none).value = .ok (.whole n) := by
  have sum : (Nat.toDigits 10 n).foldl (fun acc d => acc * 10 + digitValue d) 0 = n := by
    have value := Nat.ofDigitChars_ten_toDigits (n := n)
    simp only [Nat.ofDigitChars_eq_foldl, Nat.mul_comm 10] at value
    exact value
  simp [Numeral.value, sum, small]

/-- Written in its digits, a number of 64 bits is read back. -/
theorem readNumber_digits {n : Nat} (small : n < UInt64.size) {rest : List Char}
    (stop : Ends rest) : readNumber (Nat.toDigits 10 n ++ rest) = .ok (.whole n, rest) := by
  simp only [readNumber, readNumeral_whole .cutShort (whole_digits n) stop, value_digits small,
    bind, Except.bind]

/-- A word of 32 bits is accepted as its digits. -/
theorem accepts_word (w : UInt32) :
    Accepts readWord (.number (Nat.repr w.toNat).toList) w := by
  intro before cs rest hb written delimited
  have bound : w.toNat < UInt32.size := w.toNat_lt
  have small : w.toNat < UInt64.size := Nat.lt_trans bound (by decide)
  rw [readWord, skipSpace_before hb (written.dense.append rest)]
  cases written with
  | number _ =>
      have read := readNumber_digits small delimited.ends
      have digits := (whole_digits w.toNat).1
      rw [Nat.toList_repr]
      obtain ⟨c, tail, shape⟩ := List.exists_cons_of_ne_nil digits.1
      have digit : isDigit c = true := digits.2 c (shape ▸ List.mem_cons_self)
      rw [shape, List.cons_append] at read ⊢
      -- The range that the reader checks is that of the word, so no word is refused.
      have fits : 0 ≤ (w.toNat : Int) ∧ (w.toNat : Int) < UInt32.size := by omega
      simp only [digit, Bool.or_true, if_true, read, bind, Except.bind, if_pos fits,
        Int.toNat_natCast, UInt32.ofNat_toNat]

/-! ## Members -/

namespace Record

/-- What a member makes of a draft. -/
inductive Takes (r : Record δ) (d : δ) : Points × Tree → δ → Prop where
  | known {key : String} {f : Field δ} {t : Tree} {d' : δ} :
      r.fields.find? (fun f => f.name = key) = some f → f.isSet d = false →
      Accepts (f.read d) t d' → Takes r d (points key, t) d'
  | unknown {key : String} {t : Tree} :
      r.fields.find? (fun f => f.name = key) = none → Takes r d (points key, t) d

/-- What members make of a draft, one after another. -/
inductive Fills (r : Record δ) : δ → Members → δ → Prop where
  | done {d : δ} : Fills r d [] d
  | step {d d' d'' : δ} {m : Points × Tree} {ms : Members} :
      r.Takes d m d' → Fills r d' ms d'' → Fills r d (m :: ms) d''

variable {r : Record δ} {d d' : δ}

/-- A field that is kept at `get` takes what its reader accepts. -/
theorem Takes.field (name : String) (get : δ → Option α) (set : δ → α → δ) {read : Reader α}
    {t : Tree} {a : α}
    (found : r.fields.find? (fun f => f.name = name) = some (.of name get set read))
    (unset : get d = none) (accepts : Accepts read t a) : r.Takes d (points name, t) (set d a) :=
  .known found (congrArg Option.isSome unset) (accepts.map (set d))

/-- The value of a member is read into the draft or skipped, and the blanks behind it are left. -/
theorem Takes.read {m : Points × Tree} (takes : r.Takes d m d') {after cs rest : List Char}
    (ha : Blank after) (entry : Entry m.2 cs) (delimited : Delimited rest) :
    ∃ key blank, m.1 = points key ∧ Blank blank ∧
      r.readMember key d (after ++ ':' :: (cs ++ rest)) = .ok (d', blank ++ rest) := by
  obtain @⟨t, before, cs, blank, hb, written, behind⟩ := entry
  have follows : Delimited (blank ++ rest) := delimited.behind behind
  -- A member with a field is read by its reader; without one its value is skipped.
  cases takes with
  | @known key f _ _ found unset accepts =>
      refine ⟨key, blank, rfl, behind, ?_⟩
      have read := accepts before cs (blank ++ rest) hb written follows
      simp only [readMember, found, unset, skipColon_blank ha, List.append_assoc, bind,
        Except.bind, read, Bool.false_eq_true, if_false]
  | @unknown key _ missing =>
      refine ⟨key, blank, rfl, behind, ?_⟩
      have skipped := skipValue_written hb written follows
      simp only [readMember, missing, skipColon_blank ha, List.append_assoc, bind,
        Except.bind, skipped]

/-- A member with the closing brace behind it is the last. -/
theorem readMembers_last {key : String} {cs rest blank behind : List Char} (fuel : Nat)
    (name : readText cs = .ok (key.toList, rest)) (hb : Blank blank)
    (value : r.readMember key d rest = .ok (d', blank ++ '\x7d' :: behind)) :
    r.readMembers (fuel + 1) d cs = .ok (d', behind) := by
  simp only [readMembers, name, bind, Except.bind, String.ofList_toList, value,
    skipSpace_before hb ⟨'\x7d', behind, rfl, rfl⟩]

/-- A member with a comma behind it is followed by the others, with what it has changed. -/
theorem readMembers_more {key : String} {cs rest blank before next : List Char} (fuel : Nat)
    (name : readText cs = .ok (key.toList, rest)) (hb : Blank blank) (hn : Blank before)
    (value : r.readMember key d rest = .ok (d', blank ++ ',' :: (before ++ '"' :: next))) :
    r.readMembers (fuel + 1) d cs = r.readMembers fuel d' next := by
  simp only [readMembers, name, bind, Except.bind, String.ofList_toList, value,
    skipSpace_before hb ⟨',', _, rfl, rfl⟩, skipSpace_before hn ⟨'"', next, rfl, rfl⟩]

end Record

/-- From inside the quotes of the first name on, members fill drafts, up to the bracket behind
    them. -/
def ReadMembers (δ : Type) (ms : Members) (cs : List Char) : Prop :=
  ∃ before inner, cs = before ++ '"' :: inner ∧ Blank before ∧
    ∀ (r : Record δ) (d d' : δ) (fuel : Nat) (rest : List Char), r.Fills d ms d' →
      inner.length < fuel → r.readMembers fuel d (inner ++ '\x7d' :: rest) = .ok (d', rest)

theorem Member.read_last {m : Points × Tree} {cs : List Char} (member : Member m cs) :
    ReadMembers δ [m] cs := by
  obtain @⟨name, key, _, before, after, cs, hb, spelled, ha, entry⟩ := member
  refine ⟨before, key ++ '"' :: (after ++ ':' :: cs), rfl, hb, ?_⟩
  intro r d d' fuel rest fills enough
  obtain ⟨fuel, rfl⟩ := Nat.exists_eq_add_one_of_ne_zero (Nat.ne_zero_of_lt enough)
  cases fills with
  | step takes done =>
      cases done
      have closed : Delimited ('\x7d' :: rest) := delimited_cons (by decide) rest
      obtain ⟨s, blank, rfl, behind, value⟩ := takes.read ha entry closed
      refine Record.readMembers_last fuel ?_ behind value
      simpa using readText_spelled spelled _ s.toList rfl

/-- A member and further ones are read, if all of them are taken. -/
theorem Member.read_more {m : Points × Tree} {ms : Members} {cs others : List Char}
    (member : Member m cs) (members : ReadMembers δ ms others) :
    ReadMembers δ (m :: ms) (cs ++ ',' :: others) := by
  obtain @⟨name, key, _, before, after, cs, hb, spelled, ha, entry⟩ := member
  obtain ⟨front, inner, rfl, hf, read⟩ := members
  refine ⟨before, key ++ '"' :: (after ++ ':' :: (cs ++ ',' :: (front ++ '"' :: inner))),
    by simp, hb, ?_⟩
  intro r d d' fuel rest fills enough
  obtain ⟨fuel, rfl⟩ := Nat.exists_eq_add_one_of_ne_zero (Nat.ne_zero_of_lt enough)
  -- Each member costs one unit of fuel and has more than one character.
  have fewer : inner.length < fuel := by
    simp only [List.length_append, List.length_cons] at enough
    omega
  cases fills with
  | step takes others =>
      have next : Delimited (',' :: (front ++ '"' :: (inner ++ '\x7d' :: rest))) :=
        delimited_cons (by decide) _
      obtain ⟨s, blank, rfl, behind, value⟩ := takes.read ha entry next
      have name := readText_spelled spelled
        (after ++ ':' :: (cs ++ ',' :: (front ++ '"' :: (inner ++ '\x7d' :: rest))))
        s.toList rfl
      have step := Record.readMembers_more fuel name behind hf value
      simpa using step.trans (read r _ d' fuel rest others fewer)

/-- **EVERY LIST OF MEMBERS IS READ** in the order in which they are written. -/
theorem MemberList.read {ms : Members} {cs : List Char} (list : MemberList ms cs) :
    ReadMembers δ ms cs := by
  induction ms generalizing cs with
  | nil => cases list
  | cons m ms ih =>
      cases list with
      | last member => exact member.read_last
      | more member members => exact member.read_more (ih members)

namespace Record

variable {r : Record δ} {d : δ}

/-- **A RECORD IS READ FROM ITS MEMBERS**, whatever the layout of the object. -/
theorem accepts {ms : Members} (fills : r.Fills r.blank ms d) (finished : r.finish d = .ok d) :
    Accepts r.read (.object ms) d := by
  intro before cs rest hb written delimited
  rw [read, skipSpace_before hb (written.dense.append rest)]
  cases written with
  | noMembers inside =>
      cases fills
      simp only [List.cons_append, List.append_assoc, readObject,
        skipSpace_before inside ⟨'\x7d', _, rfl, rfl⟩, bind, Except.bind, finished,
        List.nil_append]
  | object members =>
      obtain ⟨blank, inner, rfl, inside, read⟩ := members.read
      have object := read r r.blank d ((inner ++ '\x7d' :: rest).length + 1) rest fills
        (by simp only [List.length_append, List.length_cons]; omega)
      simp only [List.cons_append, List.append_assoc, List.nil_append, readObject,
        skipSpace_before inside ⟨'"', _, rfl, rfl⟩, bind, Except.bind, object, finished]

end Record

/-! ## Documents -/

/-- **WHAT A DOCUMENT SAYS IS READ FROM IT**, blanks around it included. -/
theorem Accepts.document {read : Reader α} {t : Tree} {a : α} (accepts : Accepts read t a)
    {document : String} (written : t.WrittenAs document) :
    readDocument read document = .ok a := by
  rw [Tree.WrittenAs] at written
  rw [readDocument]
  generalize document.toList = text at written
  obtain @⟨_, before, cs, after, hb, written, ha⟩ := written
  have ended : Delimited (after ++ []) := delimited_nil.behind ha
  have blank : skipSpace (after ++ []) = [] := skipSpace_blank ha []
  rw [List.append_nil] at ended blank
  rw [accepts before cs after hb written ended]
  exact if_pos blank

end Vdom.Json
