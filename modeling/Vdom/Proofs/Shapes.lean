import Mathlib.Data.List.Forall2
import Vdom.Node.Scene
import Vdom.Proofs.Cloning
/-!
# Shapes — the bits of a node describe it

A shape comes of three steps: the bit of the kind, the bit of the offer of children, and the bit of
what is stored of it.

* **`settle_shape`** — the third step adds nothing to the second, whose bit is told by the kind and
  the form of the offer. What is stored does not tell it: an element has the bit of slots if it was
  given a render function, but not if it was given a mapping.
* **`create_formed`** — so a new node has the two bits of its kind and its form, and no other.
* **`bare_changeAll`** — no change after the making of a node touches its tree, but for the cells,
  and those say nothing of shapes (`formed_bare`).
* **`shape_describes`** — the bits therefore describe a node, and the nodes in its arrays, through
  any changes.
-/

namespace Vdom

variable {η : Type}

/-! ## Forms -/

/-- In what form children are handed in. -/
inductive Form where
  | nothing
  | text
  | array
  /-- Slots by their names. -/
  | mapping
  /-- One render function. -/
  | function
  deriving DecidableEq

/-- The form of an offer; numbers and truth values are texts. -/
def Offer.form {κ : Type} : Offer κ → Form
  | .none => .nothing
  | .text _ => .text
  | .number _ => .text
  | .bool _ => .text
  | .array _ => .array
  | .slots _ => .mapping
  | .render _ => .function

namespace Form

/-- What is stored for children of a form. -/
inductive Stores : Form → Children → Prop where
  | nothing : Stores .nothing .none
  | text (t : String) : Stores .text (.text t)
  | array (entries : List Child) : Stores .array (.array entries)
  | mapping (m : Slots) : Stores .mapping (.slots m)
  | function (m : Slots) : Stores .function (.slots m)

section Stores

variable {f : Form} {children : Children} (stored : f.Stores children)

include stored

/-- Only children handed in as text, numbers or truth values are stored as text. -/
theorem Stores.text_iff : f = .text ↔ ∃ t, children = .text t := by
  cases stored with
  | text t => exact iff_of_true rfl ⟨t, rfl⟩
  | _ => exact iff_of_false nofun nofun

theorem Stores.array_iff : f = .array ↔ ∃ entries, children = .array entries := by
  cases stored with
  | array entries => exact iff_of_true rfl ⟨entries, rfl⟩
  | _ => exact iff_of_false nofun nofun

/-- Slots are stored from a mapping or from a single function, and cannot be told apart any more. -/
theorem Stores.slots_iff : f = .mapping ∨ f = .function ↔ ∃ m, children = .slots m := by
  cases stored with
  | mapping m => exact iff_of_true (.inl rfl) ⟨m, rfl⟩
  | function m => exact iff_of_true (.inr rfl) ⟨m, rfl⟩
  | _ => exact iff_of_false nofun nofun

end Stores

/-- The form is not told by cells. -/
theorem stores_bare {f : Form} {children : Children} :
    f.Stores children.bare ↔ f.Stores children := by
  cases children with
  | none => rfl
  | text t => rfl
  | slots m => rfl
  | array entries =>
      constructor
      · rintro ⟨⟩
        constructor
      · rintro ⟨⟩
        constructor

/-! ## Bits -/

/-- The bit for children of a form on a node whose kind has the bit `kind`. -/
def shape (kind : Shape) : Form → Shape
  | .nothing => .empty
  | .text => .textChildren
  | .array => .arrayChildren
  | .mapping => if kind.contains .element then .empty else .slotsChildren
  | .function => .slotsChildren

/-- The bits of a kind and of a form can be told apart again, and no further bit comes of them. -/
theorem shape_classes (f : Form) : ∀ kind ∈ [Shape.empty, .element, .component],
    let bits := kind.union (f.shape kind)
    bits.kindClass = kind ∧ bits.known = bits
    ∧ bits.childrenClass ∈ [Shape.empty, .textChildren, .arrayChildren, .slotsChildren]
    ∧ (bits.contains .textChildren = true ↔ f = .text)
    ∧ (bits.contains .arrayChildren = true ↔ f = .array)
    ∧ (bits.contains .slotsChildren = true
      ↔ (f = .mapping ∨ f = .function) ∧ ¬ (f = .mapping ∧ kind = .element)) := by
  cases f <;> decide

end Form

namespace Kind

/-- A kind has one bit at most. -/
theorem shape_mem (kind : Kind) : kind.shape ∈ [Shape.empty, .element, .component] := by
  cases kind with
  | element tag => exact .tail _ (.head _)
  | text => exact .head _
  | fragment => exact .head _
  | component c => exact .tail _ (.tail _ (.head _))

/-- The bit of a kind tells elements from all else, and so for components, texts and fragments. -/
theorem shape_eq_element (kind : Kind) : kind.shape = .element ↔ ∃ tag, kind = .element tag := by
  cases kind with
  | element tag => exact iff_of_true rfl ⟨tag, rfl⟩
  | text => exact iff_of_false (by decide : Shape.empty ≠ .element) nofun
  | fragment => exact iff_of_false (by decide : Shape.empty ≠ .element) nofun
  | component c => exact iff_of_false (by decide : Shape.component ≠ .element) nofun

theorem shape_eq_component (kind : Kind) : kind.shape = .component ↔ ∃ c, kind = .component c := by
  cases kind with
  | element tag => exact iff_of_false (by decide : Shape.element ≠ .component) nofun
  | text => exact iff_of_false (by decide : Shape.empty ≠ .component) nofun
  | fragment => exact iff_of_false (by decide : Shape.empty ≠ .component) nofun
  | component c => exact iff_of_true rfl ⟨c, rfl⟩

theorem shape_eq_empty (kind : Kind) : kind.shape = .empty ↔ kind = .text ∨ kind = .fragment := by
  cases kind with
  | element tag => exact iff_of_false (by decide : Shape.element ≠ .empty) nofun
  | text => exact iff_of_true rfl (.inl rfl)
  | fragment => exact iff_of_true rfl (.inr rfl)
  | component c => exact iff_of_false (by decide : Shape.component ≠ .empty) nofun

end Kind

/-! ## Nodes -/

namespace Node

/-- The bits of a node whose children were handed in in the form `f` describe it. -/
structure Described (n : Node) (f : Form) : Prop where
  stored : f.Stores n.children
  element : n.head.shape.kindClass = .element ↔ ∃ tag, n.head.kind = .element tag
  component : n.head.shape.kindClass = .component ↔ ∃ c, n.head.kind = .component c
  neither : n.head.shape.kindClass = .empty ↔ n.head.kind = .text ∨ n.head.kind = .fragment
  text : n.head.shape.contains .textChildren = true ↔ ∃ t, n.children = .text t
  array : n.head.shape.contains .arrayChildren = true ↔ ∃ entries, n.children = .array entries
  slots : n.head.shape.contains .slotsChildren = true
    ↔ (∃ m, n.children = .slots m) ∧ ¬ (f = .mapping ∧ ∃ tag, n.head.kind = .element tag)
  /-- At most one bit of each class is set. -/
  single : n.head.shape.kindClass ∈ [Shape.empty, .element, .component]
    ∧ n.head.shape.childrenClass ∈ [Shape.empty, .textChildren, .arrayChildren, .slotsChildren]
  /-- No bit without a meaning is set. -/
  known : n.head.shape.known = n.head.shape

/-- A node has the bits and the children that come of a form. -/
structure Formed (n : Node) (f : Form) : Prop where
  shape : n.head.shape = n.head.kind.shape.union (f.shape n.head.kind.shape)
  stored : f.Stores n.children

/-- The bits that come of a form describe the node: all that is asked of them can be read off the
    classes. -/
theorem Formed.described {n : Node} {f : Form} (formed : n.Formed f) : n.Described f := by
  obtain ⟨kind, known, single, text, array, slots⟩ := f.shape_classes _ n.head.kind.shape_mem
  rw [← formed.shape] at kind known single text array slots
  rw [n.head.kind.shape_eq_element, formed.stored.slots_iff] at slots
  -- The classes of the bits are those of kind and form; what remains is to name the kinds and
  -- forms.
  constructor
  · exact formed.stored
  · rw [kind]
    exact n.head.kind.shape_eq_element
  · rw [kind]
    exact n.head.kind.shape_eq_component
  · rw [kind]
    exact n.head.kind.shape_eq_empty
  · exact text.trans formed.stored.text_iff
  · exact array.trans formed.stored.array_iff
  · exact slots
  · rw [kind]
    exact ⟨n.head.kind.shape_mem, single⟩
  · exact known

/-- Cells count for neither bits nor children. -/
theorem formed_bare {n : Node} {f : Form} : n.bare.Formed f ↔ n.Formed f := by
  obtain ⟨cell, head, children⟩ := n
  constructor
  · rintro ⟨shape, stored⟩
    exact ⟨shape, Form.stores_bare.mp stored⟩
  · rintro ⟨shape, stored⟩
    exact ⟨shape, Form.stores_bare.mpr stored⟩

/-- Of two nodes with the same bare tree, both are formed or neither. -/
theorem Formed.of_bare_eq {n m : Node} {f : Form} (formed : n.Formed f) (same : n.bare = m.bare) :
    m.Formed f :=
  formed_bare.mp (same ▸ formed_bare.mpr formed)

end Node

/-! ## Making nodes -/

namespace Shape

theorem union_assoc (a b c : Shape) : (a.union b).union c = a.union (b.union c) :=
  congrArg Shape.mk (UInt32.or_assoc _ _ _)

theorem union_self (a : Shape) : a.union a = a := congrArg Shape.mk UInt32.or_self

theorem union_empty (a : Shape) : a.union .empty = a := congrArg Shape.mk UInt32.or_zero

end Shape

/-- **ONE BIT**: that of what is stored is none, or it is that of the offer once more. -/
theorem settle_shape (kind : Shape) (offer : Offer Child) :
    (offer.settle kind).2.union (offer.settle kind).1.shape = offer.form.shape kind := by
  cases offer with
  | none => exact Shape.union_empty _
  | text t => exact Shape.union_self _
  | number x => exact Shape.union_self _
  | bool b => exact Shape.union_self _
  | array entries => exact Shape.union_self _
  | slots m => exact Shape.union_empty _
  | render slot => exact Shape.union_empty _

/-- An offer is stored in the form that it has. -/
theorem settle_stores (shape : Shape) (offer : Offer Child) :
    offer.form.Stores (offer.settle shape).1 := by
  cases offer <;> constructor

namespace Scene

/-- A new node has the bits of its kind and of its children, though the latter are added twice. -/
theorem create_formed (s : Scene η) (kind : Kind) (props : Option Fields) (offer : Offer Child) :
    (s.create kind props offer).1.Formed offer.form := by
  constructor
  · show (kind.shape.union (offer.settle kind.shape).2).union (offer.settle kind.shape).1.shape
      = kind.shape.union (offer.form.shape kind.shape)
    rw [Shape.union_assoc, settle_shape]
  · exact settle_stores kind.shape offer

end Scene

/-- How a node is made. -/
inductive Making where
  | create (kind : Kind) (props : Option Fields) (offer : Offer Child)
  | createText (text : Option String)
  | normalizeText (t : String)
  | normalizeArray (entries : List Child)

/-- The form of the children that a node is made with. -/
def Making.form : Making → Form
  | .create _ _ offer => offer.form
  | .createText _ => .text
  | .normalizeText _ => .text
  | .normalizeArray _ => .array

namespace Scene

/-- Make a node. -/
def make (s : Scene η) : Making → Node × Scene η
  | .create kind props offer => s.create kind props offer
  | .createText text => s.createText text
  | .normalizeText t => s.normalize (.text t)
  | .normalizeArray entries => s.normalize (.array entries)

/-- Every node that is made is formed by what it is made from. -/
theorem make_formed (s : Scene η) (m : Making) : (s.make m).1.Formed m.form := by
  cases m with
  | create kind props offer => exact s.create_formed kind props offer
  | createText text => exact s.create_formed .text none (.text (text.getD " "))
  | normalizeText t => exact s.create_formed .text none (.text t)
  | normalizeArray entries => exact s.create_formed .fragment none (.array entries)

end Scene

/-! ## Trees -/

mutual

/-- The nodes of a tree, each before those in its array. -/
def Node.nodes : Node → List Node
  | .mk cell head children => .mk cell head children :: children.nodes

/-- The nodes in the array, if children are one. -/
def Children.nodes : Children → List Node
  | .array entries => nodesAll entries
  | _ => []

/-- The nodes in entries. -/
def nodesAll : List Child → List Node
  | [] => []
  | entry :: rest => entry.nodes ++ nodesAll rest

/-- The nodes in an entry, to any depth. -/
def Child.nodes : Child → List Node
  | .node n => n.nodes
  | .text _ => []
  | .array entries => nodesAll entries

end

mutual

/-- The bare tree has as many nodes as the tree, each bare. -/
theorem nodes_bare : ∀ n : Node, n.bare.nodes = n.nodes.map Node.bare
  | .mk _ _ children => congrArg (_ :: ·) (nodes_bare_children children)

theorem nodes_bare_children : ∀ children : Children,
    children.bare.nodes = children.nodes.map Node.bare
  | .none => rfl
  | .text _ => rfl
  | .array entries => nodes_bare_entries entries
  | .slots _ => rfl

theorem nodes_bare_entries : ∀ entries : List Child,
    nodesAll (bareAll entries) = (nodesAll entries).map Node.bare
  | [] => rfl
  | entry :: rest => by
      show entry.bare.nodes ++ nodesAll (bareAll rest)
        = (entry.nodes ++ nodesAll rest).map Node.bare
      rw [nodes_bare_entry entry, nodes_bare_entries rest, List.map_append]

theorem nodes_bare_entry : ∀ entry : Child, entry.bare.nodes = entry.nodes.map Node.bare
  | .node n => nodes_bare n
  | .text _ => rfl
  | .array entries => nodes_bare_entries entries

end

/-- What happens after a node is made. -/
inductive Change (η : Type) where
  | clone
  | cloneIfMounted
  | normalize
  /-- The bindings of some node are written. -/
  | bind (n : Node) (b : Bindings η)
  /-- Anything else is done, with other nodes. -/
  | meanwhile (t : Scene η)

namespace Scene

/-- The node that a change yields for a node, and the scene after it. -/
def change (s : Scene η) (n : Node) : Change η → Node × Scene η
  | .clone => s.clone n
  | .cloneIfMounted => s.cloneIfMounted n
  | .normalize => s.normalize (.node n)
  | .bind other b => (n, s.bind other b)
  | .meanwhile t => (n, t)

/-- The node that changes yield for a node, and the scene after them. -/
def changeAll : Node × Scene η → List (Change η) → Node × Scene η
  | (n, s), [] => (n, s)
  | (n, s), c :: cs => changeAll (s.change n c) cs

/-- A node is made, and then there are changes. -/
def grow (s : Scene η) (m : Making) (cs : List (Change η)) : Node × Scene η :=
  changeAll (s.make m) cs

/-- A change yields the node or a clone of it. -/
theorem change_cases (s : Scene η) (n : Node) (c : Change η) :
    (s.change n c).1 = n ∨ (s.change n c).1 = (n.clone s.store).1 := by
  have taken : (s.cloneIfMounted n).1 = n ∨ (s.cloneIfMounted n).1 = (n.clone s.store).1 := by
    by_cases mounted : s.store.isMounted n = true
    · rw [cloneIfMounted_of_mounted mounted]
      exact .inr rfl
    · rw [cloneIfMounted_of_not_mounted mounted]
      exact .inl rfl
  cases c with
  | clone => exact .inr rfl
  | cloneIfMounted => exact taken
  | normalize => exact taken
  | bind other b => exact .inl rfl
  | meanwhile t => exact .inl rfl

/-- **RUN**: but for the cells, a node is the same tree after any changes. -/
theorem bare_changeAll (n : Node) (s : Scene η) (cs : List (Change η)) :
    (changeAll (n, s) cs).1.bare = n.bare := by
  induction cs generalizing n s with
  | nil => rfl
  | cons c cs ih =>
      have step : (s.change n c).1.bare = n.bare := by
        obtain same | cloned := s.change_cases n c
        · rw [same]
        · rw [cloned]
          exact bare_node n s.store
      exact (ih (s.change n c).1 (s.change n c).2).trans step

end Scene

/-- The node can be made with children of the form `f`, in some scene, and with some changes. -/
def Built (η : Type) (n : Node) (f : Form) : Prop :=
  ∃ (s : Scene η) (m : Making) (cs : List (Change η)), (s.grow m cs).1 = n ∧ m.form = f

/-- A node keeps its bits through all changes that a program makes to it. -/
theorem Built.formed {n : Node} {f : Form} (built : Built η n f) : n.Formed f := by
  obtain ⟨s, m, cs, rfl, rfl⟩ := built
  exact (s.make_formed m).of_bare_eq (Scene.bare_changeAll _ _ cs).symm

namespace Scene

/-- Two paragraphs in an array that is cloned, one given a render function, one a mapping. -/
example :
    let paragraph (offer : Offer Child) : Child :=
      .node ((initial : Scene String).create (.element "p") none offer).1
    let given : Making := .normalizeArray
      [paragraph (.render ⟨0⟩), .array [paragraph (.slots (.single Slot.defaultName ⟨0⟩))]]
    ((initial : Scene String).grow given [.clone]).1.children.nodes.map
      (fun n => n.head.shape.contains .slotsChildren) = [true, false] := by
  decide

end Scene

end Vdom
