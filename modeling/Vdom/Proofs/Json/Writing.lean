import Mathlib.Data.List.Forall2
import Vdom.Json.Document
import Vdom.Json.Write
import Vdom.Proofs.Json.Reading
import Vdom.Proofs.Literal
/-!
# Writing within the grammar — compact records and documents laid out for readers

Both writers put members side by side with commas between them; they differ in the blanks around a
member and in what follows its colon. So one lemma about joined members (`memberList_join`) serves
both.

* **`quote_written`**, **`writeBool_written`**, **`writeWord_written`** — scalars.
* **`writeObject_written`** — a compact object, from its members.
* **`Document.tree`**, **`Document.layout_written`** — a document laid out says what it holds.
-/

namespace Vdom.Json

open Text.Quoted (escape encode)

/-! ## Scalars -/

/-- An escaped string spells the code points of the string. -/
theorem spells_points (s : String) : Spells (points s) (s.toList.flatMap escape) :=
  spells_escaped s.toList

/-- A quoted string says the string. -/
theorem quote_written (s : String) : Written (.text (points s)) (quote s).toList := by
  rw [quote, String.toList_ofList]
  exact .text (spells_points s)

theorem writeBool_written (b : Bool) : Written (.bool b) (writeBool b).toList := by
  cases b with
  | true => exact .yes
  | false => exact .no

/-- A word of 32 bits is written as a number, in decimal digits. -/
theorem writeWord_written (w : UInt32) :
    Written (.number (Nat.repr w.toNat).toList) (writeWord w).toList := by
  rw [writeWord, Nat.toList_repr]
  have unsigned : Unsigned (Nat.toDigits 10 w.toNat ++ ([] ++ [])) :=
    .mk (whole_digits w.toNat) .none .none
  rw [List.append_nil, List.append_nil] at unsigned
  exact .number (.positive unsigned)

/-! ## Members -/

/-- A text that is a member of an object. -/
def IsMember (m : Points × Tree) (text : String) : Prop := Member m text.toList

/-- Members that are joined by commas are a list of members. -/
theorem memberList_join {ms : Members} {texts : List String}
    (members : List.Forall₂ IsMember ms texts) (some : ms ≠ []) :
    MemberList ms (Text.join "," texts).toList := by
  induction members with
  | nil => exact absurd rfl some
  | @cons m text ms texts member others ih =>
      cases others with
      | nil => exact .last member
      | @cons m' text' ms texts member' others =>
          have list : MemberList (m :: m' :: ms)
            (text.toList ++ ',' :: (Text.join "," (text' :: texts)).toList) :=
            .more member (ih nofun)
          simpa [Text.join] using list

/-- A value without blanks around it is an entry. -/
theorem Entry.of_written {t : Tree} {cs : List Char} (written : Written t cs) : Entry t cs := by
  have entry := Entry.mk blank_nil written blank_nil
  rwa [List.nil_append, List.append_nil] at entry

/-- A member as compact records have it, without blanks. -/
theorem writeMember_written {name value : String} {t : Tree} (written : Written t value.toList) :
    IsMember (points name, t) (writeMember name value) := by
  have member := Member.mk blank_nil (spells_points name) blank_nil (.of_written written)
  simpa [IsMember, writeMember, quote, encode] using member

/-- **A COMPACT RECORD IS AN OBJECT** of its members. -/
theorem writeObject_written {ms : Members} {texts : List String}
    (members : List.Forall₂ IsMember ms texts) :
    Written (.object ms) (writeObject texts).toList := by
  have text : (writeObject texts).toList
      = '\x7b' :: ((Text.join "," texts).toList ++ ['\x7d']) := by
    simp [writeObject]
  rw [text]
  cases members with
  | nil => exact .noMembers blank_nil
  | cons member others => exact .object (memberList_join (.cons member others) nofun)

/-! ## Documents laid out -/

mutual

/-- What a document says. -/
def Document.tree : Document → Tree
  | .bool b => .bool b
  | .text s => .text (points s)
  | .object members => .object (memberTrees members)

/-- The members of an object as they are said. -/
def memberTrees : List (String × Document) → Members
  | [] => []
  | (name, d) :: rest => (points name, d.tree) :: memberTrees rest

end

theorem blank_newLine (depth : Nat) : Blank (newLine depth).toList := by
  intro c there
  simp only [newLine, String.toList_ofList, List.mem_cons, List.mem_replicate] at there
  rcases there with rfl | ⟨-, rfl⟩ <;> decide

theorem Blank.append {cs ds : List Char} (hc : Blank cs) (hd : Blank ds) : Blank (cs ++ ds) := by
  intro c there
  rcases List.mem_append.mp there with left | right
  · exact hc c left
  · exact hd c right

/-- Blanks behind an entry are part of it. -/
theorem Entry.behind {t : Tree} {cs blank : List Char} (entry : Entry t cs) (hb : Blank blank) :
    Entry t (cs ++ blank) := by
  obtain @⟨_, before, cs, after, front, written, back⟩ := entry
  have entry := Entry.mk front written (back.append hb)
  simpa using entry

theorem Member.behind {m : Points × Tree} {cs blank : List Char} (member : Member m cs)
    (hb : Blank blank) : Member m (cs ++ blank) := by
  obtain @⟨_, key, _, before, after, cs, front, spelled, middle, entry⟩ := member
  have member := Member.mk front spelled middle (entry.behind hb)
  simpa using member

/-- Blanks behind the last member belong to it. -/
theorem MemberList.behind {ms : Members} {cs blank : List Char} (list : MemberList ms cs)
    (hb : Blank blank) : MemberList ms (cs ++ blank) := by
  induction ms generalizing cs with
  | nil => cases list
  | cons m ms ih =>
      cases list with
      | last member => exact .last (member.behind hb)
      | more member members =>
          rw [List.append_assoc]
          exact .more member (ih members)

/-- An object laid out, from its members. -/
theorem layoutObject_written {ms : Members} {texts : List String} (depth : Nat)
    (members : List.Forall₂ IsMember ms texts) :
    Written (.object ms)
      ("\x7b" ++ Text.join "," texts ++ newLine depth ++ "\x7d" : String).toList := by
  have text : ("\x7b" ++ Text.join "," texts ++ newLine depth ++ "\x7d" : String).toList
      = '\x7b' :: ((Text.join "," texts).toList ++ (newLine depth).toList ++ ['\x7d']) := by
    simp
  rw [text]
  cases members with
  | nil => exact .noMembers (blank_newLine depth)
  | cons member others =>
      exact .object ((memberList_join (.cons member others) nofun).behind (blank_newLine depth))

/-- A member as documents laid out have it, on a line of its own. -/
theorem layoutMember_written {name value : String} {t : Tree} (depth : Nat)
    (written : Written t value.toList) :
    IsMember (points name, t) (newLine depth ++ quote name ++ ": " ++ value) := by
  have space : Blank [' '] := by simp [Blank]
  have entry : Entry t ([' '] ++ (value.toList ++ [])) := .mk space written blank_nil
  have member := Member.mk (blank_newLine depth) (spells_points name) blank_nil entry
  simpa [IsMember, quote, encode] using member

mutual

/-- **A DOCUMENT LAID OUT SAYS WHAT IT HOLDS**. -/
theorem Document.layout_written : ∀ (d : Document) (depth : Nat),
    Written d.tree (d.layout depth).toList
  | .bool b, _ => writeBool_written b
  | .text s, _ => quote_written s
  | .object members, depth => layoutObject_written depth (layoutMembers_written members (depth + 1))

theorem layoutMembers_written : ∀ (members : List (String × Document)) (depth : Nat),
    List.Forall₂ IsMember (memberTrees members) (layoutMembers depth members)
  | [], _ => .nil
  | (_, d) :: rest, depth =>
      .cons (layoutMember_written depth (d.layout_written depth))
        (layoutMembers_written rest depth)

end

/-- The layout of a document says what the document does. -/
theorem Document.pretty_written (d : Document) : d.tree.WrittenAs d.pretty :=
  .of_written (d.layout_written 0)

end Vdom.Json
