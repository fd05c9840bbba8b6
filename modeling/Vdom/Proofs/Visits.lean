import Vdom.Emit.Pieces
import Vdom.Emit.RenderFunction
/-!
# Visits — the emitted tree in pre-order

What is written of a template is a tree of its own: plans stand for elements, and parsed children
are not in it. Here that tree is listed, outermost first and in reading order.

* **`Site`** — a node that code can be mapped to: texts, atoms, property keys, calls, objects and
  arrays.
* **`Visit`** — an entry of the list: a site, an element that needs a plan, the tag of a call,
  pasted code, or an outermost compound.
* **`Fragment`** — an entry of a compound; compounds inside compounds are opened, so that an
  outermost compound is a plain list of fragments.
* **`Writer`** — what writes pieces once the names of helpers are known.
-/

namespace Vdom.Emit

/-! ## Writers -/

/-- What writes pieces once the names of helpers are known. -/
abbrev Writer := Registry → Written

namespace Writer

/-- Pieces that need no name. -/
def plain (ps : List Piece) : Writer := fun _ => .ok ps

/-- A fault, whatever the names. -/
def fault (f : Fault) : Writer := fun _ => .error f

/-- One writer after another. -/
def chain (first second : Writer) : Writer := fun registry => do
  let ps ← first registry
  let qs ← second registry
  .ok (ps ++ qs)

/-- A writer between pieces and a closing text. -/
def enclosed (before : List Piece) (inner : Writer) (after : String) : Writer := fun registry =>
  (inner registry).map fun ps => before ++ (ps ++ [.code after])

/-- Writers in order. -/
def sequence : List Writer → Writer
  | [] => plain []
  | first :: rest => chain first (sequence rest)

/-- A chain succeeds only if both its writers do, and writes what they write. -/
theorem chain_ok {first second : Writer} {registry : Registry} {ps : List Piece}
    (h : chain first second registry = .ok ps) :
    ∃ qs rs, first registry = .ok qs ∧ second registry = .ok rs ∧ ps = qs ++ rs := by
  rw [chain] at h
  cases hq : first registry with
  | error f => rw [hq] at h; exact nomatch h
  | ok qs =>
      cases hr : second registry with
      | error f => rw [hq, hr] at h; exact nomatch h
      | ok rs =>
          rw [hq, hr] at h
          exact ⟨qs, rs, rfl, rfl, (Except.ok.inj h).symm⟩

/-- What stands between brackets has to succeed for the whole to do so. -/
theorem enclosed_ok {before : List Piece} {inner : Writer} {after : String}
    {registry : Registry} {ps : List Piece}
    (h : enclosed before inner after registry = .ok ps) :
    ∃ qs, inner registry = .ok qs ∧ ps = before ++ (qs ++ [.code after]) := by
  rw [enclosed] at h
  cases hq : inner registry with
  | error f => rw [hq] at h; exact nomatch h
  | ok qs =>
      rw [hq] at h
      exact ⟨qs, rfl, (Except.ok.inj h).symm⟩

@[simp] theorem plain_chain (w : Writer) : chain (plain []) w = w := by
  funext registry
  rw [chain, plain]
  cases w registry with
  | error f => rfl
  | ok ps => rfl

@[simp] theorem chain_plain (w : Writer) : chain w (plain []) = w := by
  funext registry
  rw [chain, plain]
  cases w registry with
  | error f => rfl
  | ok ps =>
      show Except.ok (ps ++ []) = Except.ok ps
      rw [List.append_nil]

/-- How writers are grouped does not show. -/
theorem chain_assoc (w x y : Writer) : chain (chain w x) y = chain w (chain x y) := by
  funext registry
  simp only [chain]
  cases w registry with
  | error f => rfl
  | ok ps =>
      cases x registry with
      | error f => rfl
      | ok qs =>
          cases y registry with
          | error f => rfl
          | ok rs =>
              show Except.ok (ps ++ qs ++ rs) = Except.ok (ps ++ (qs ++ rs))
              rw [List.append_assoc]

/-- What stands around a writer is written before and after it. -/
theorem enclosed_eq (before : List Piece) (w : Writer) (after : String) :
    enclosed before w after = chain (plain before) (chain w (plain [.code after])) := by
  funext registry
  simp only [enclosed, chain, plain]
  cases w registry with
  | error f => rfl
  | ok ps => rfl

/-- A sequence may be cut anywhere into two that follow each other. -/
theorem sequence_append (ws xs : List Writer) :
    sequence (ws ++ xs) = chain (sequence ws) (sequence xs) := by
  induction ws with
  | nil => exact (plain_chain _).symm
  | cons w ws ih => rw [List.cons_append, sequence, sequence, ih, chain_assoc]

end Writer

/-! ## Sites and visits -/

/-- A node that code can be mapped to. -/
inductive Site where
  | text (content : String) (span : Span)
  | atom (a : Atom)
  /-- An atom as the key of a property. -/
  | key (a : Atom)
  | call (c : Call)
  | object (properties : List Property) (span : Span)
  | array (items : List Item) (span : Span)

namespace Site

/-- Where a site stands in the template. -/
def span : Site → Span
  | .text _ span => span
  | .atom a => a.span
  | .key a => a.span
  | .call c => c.span
  | .object _ span => span
  | .array _ span => span

/-- What writes a site. -/
def writer : Site → Writer
  | .text content span => Writer.plain (Piece.spanned (quote content) span)
  | .atom a => Writer.plain (atomPieces a)
  | .key a => fun registry => keyPieces registry (.atom a)
  | .call c => fun registry => callPieces registry c
  | .object properties span => fun registry => operandPieces registry (.object properties span)
  | .array items span => fun registry => operandPieces registry (.array items span)

end Site

/-- An entry of a compound. -/
inductive Fragment where
  | text (content : String) (span : Span)
  | atom (a : Atom)
  /-- Code pasted as it stands. -/
  | raw (code : String)
  /-- The name of a helper. -/
  | symbol (helper : Helper)

namespace Fragment

/-- What writes a fragment. -/
def writer : Fragment → Writer
  | .text content span => Writer.plain (Piece.spanned (quote content) span)
  | .atom a => Writer.plain (atomPieces a)
  | .raw code => Writer.plain [.code code]
  | .symbol helper => fun registry => symbolPieces registry helper

end Fragment

/-- An entry of the emitted tree. -/
inductive Visit where
  /-- An element, and whether it has a plan. -/
  | element (tag : String) (planned : Bool)
  | site (s : Site)
  | tag (t : Tag)
  /-- Code pasted as it stands. -/
  | raw (code : String)
  /-- A compound that is in no other compound. -/
  | compound (parts : List Part)

/-- The visit that a fragment would be outside of compounds. -/
def Fragment.visit : Fragment → Visit
  | .text content span => .site (.text content span)
  | .atom a => .site (.atom a)
  | .raw code => .raw code
  | .symbol helper => .tag (.symbol helper)

end Vdom.Emit

namespace Vdom

open Emit (Visit Fragment)

/-! ## Compounds -/

mutual

/-- The fragments of an expression inside a compound. -/
def Expr.fragments : Expr → List Fragment
  | .atom a => [.atom a]
  | .compound parts _ => fragmentsOf parts

/-- The fragments of a part. -/
def Part.fragments : Part → List Fragment
  | .atom a => [.atom a]
  | .compound parts _ => fragmentsOf parts
  | .interpolation content _ => content.fragments
  | .text content span => [.text content span]
  | .raw code => [.raw code]
  | .symbol helper => [.symbol helper]

/-- The fragments of a compound. -/
def fragmentsOf : List Part → List Fragment
  | [] => []
  | part :: rest => part.fragments ++ fragmentsOf rest

end

/-! ## The emitted tree -/

/-- The visits of an expression. -/
def Expr.visits : Expr → List Visit
  | .atom a => [.site (.atom a)]
  | .compound parts _ => [.compound parts]

/-- The visits of a property key. -/
def Expr.keyVisits : Expr → List Visit
  | .atom a => [.site (.key a)]
  | .compound parts _ => [.compound parts]

mutual

/-- The visits of a node. -/
def Template.visits : Template → List Visit
  | .element tag _ plan _ => plan.visits tag
  | .text content span => [.site (.text content span)]
  | .interpolation content _ => content.visits
  | .compound parts _ => [.compound parts]

/-- The visits of what stands for the element `tag`. -/
def Plan.visits (tag : String) : Plan → List Visit
  | .missing => [.element tag false]
  | .call c => .element tag true :: c.visits
  | .atom a => [.element tag true, .site (.atom a)]

/-- The visits of a call: the call itself, its tag, its props, its children. -/
def Call.visits : Call → List Visit
  | .mk tag props content span =>
    .site (.call (.mk tag props content span)) :: .tag tag :: (visitsProps props ++ content.visits)

/-- The visits of the props of a call. -/
def visitsProps : Option Operand → List Visit
  | none => []
  | some value => value.visits

/-- The visits of the children of a call. -/
def Content.visits : Content → List Visit
  | .absent => []
  | .many children => visitsAll children
  | .one child => child.visits
  | .operand value => value.visits

/-- The visits of nodes in order. -/
def visitsAll : List Template → List Visit
  | [] => []
  | child :: rest => child.visits ++ visitsAll rest

/-- The visits of a value. -/
def Operand.visits : Operand → List Visit
  | .call c => c.visits
  | .object properties span => .site (.object properties span) :: visitsProperties properties
  | .array items span => .site (.array items span) :: visitsItems items
  | .atom a => [.site (.atom a)]
  | .compound parts _ => [.compound parts]

/-- The visits of the properties of an object. -/
def visitsProperties : List Property → List Visit
  | [] => []
  | property :: rest => property.visits ++ visitsProperties rest

/-- The visits of a property: its key, then its value. -/
def Property.visits : Property → List Visit
  | .mk key value _ => key.keyVisits ++ value.visits

/-- The visits of the items of an array. -/
def visitsItems : List Item → List Visit
  | [] => []
  | item :: rest => item.visits ++ visitsItems rest

/-- The visits of an item. -/
def Item.visits : Item → List Visit
  | .raw code => [.raw code]
  | .operand value => value.visits

end

/-- The visits of a whole template. -/
def Root.visits (root : Root) : List Visit := visitsAll root.children

end Vdom
