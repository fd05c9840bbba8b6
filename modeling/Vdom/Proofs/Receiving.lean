import Vdom.Proofs.Shapes
/-!
# Receiving again — bits are added and never taken away

A node may be given children more than once. The new ones take the place of those it had, but their
bit is only added to its shape, so that the bit of children that are gone may stay.

* **`shape_receiveAll`** — the bits of a node after any offers are those that it had and those of
  all the offers.
* **`Formed.receive_iff`** — one offer: the bits describe the new children exactly if the former
  ones had no bit, or the same one.
* **`reflects_iff`** — so, in a run of offers, the bits always describe the children given last
  exactly if a bit that is once set is that of all later offers.
* **`outlived_bit`** — a text that gives way to an array leaves its bit behind.
-/

namespace Vdom

variable {η : Type}

theorem Shape.inter_union (a b c : Shape) :
    (a.union b).inter c = (a.inter c).union (b.inter c) :=
  congrArg (fun bits => Shape.mk ⟨bits⟩) BitVec.and_or_distrib_right

namespace Form

/-- A form has one bit at most. -/
theorem shape_mem (kind : Shape) (f : Form) :
    f.shape kind ∈ [Shape.empty, .textChildren, .arrayChildren, .slotsChildren] := by
  cases f with
  | nothing => exact .head _
  | text => exact .tail _ (.head _)
  | array => exact .tail _ (.tail _ (.head _))
  | function => exact .tail _ (.tail _ (.tail _ (.head _)))
  | mapping =>
      rw [shape]
      split <;> decide

/-- What the children are does not bear on whether a node is an element. -/
theorem contains_element_union (bits kind : Shape) (f : Form) :
    (bits.union (f.shape kind)).contains .element = bits.contains .element := by
  have apart : ∀ bit ∈ [Shape.empty, .textChildren, .arrayChildren, .slotsChildren],
      bit.inter .element = .empty := by decide
  have same : (bits.union (f.shape kind)).inter .element = bits.inter .element := by
    rw [Shape.inter_union, apart _ (f.shape_mem kind), Shape.union_empty]
  rw [Shape.contains, same]
  rfl

/-- The bit of a form is told by whether the node is an element. -/
theorem shape_congr {bits kind : Shape} (f : Form)
    (same : bits.contains .element = kind.contains .element) : f.shape bits = f.shape kind := by
  cases f with
  | mapping => rw [shape, shape, same]
  | _ => rfl

/-- A bit that is added to another leaves only itself exactly if there was none, or itself. -/
theorem shape_absorbs (f g : Form) : ∀ kind ∈ [Shape.empty, .element, .component],
    (kind.union (f.shape kind)).union (g.shape kind) = kind.union (g.shape kind)
      ↔ f.shape kind = .empty ∨ f.shape kind = g.shape kind := by
  cases f <;> cases g <;> decide

end Form

/-- The bit that an offer adds is that of its form. -/
theorem settle_bit (shape : Shape) (offer : Offer Child) :
    (offer.settle shape).2 = offer.form.shape shape := by
  cases offer <;> rfl

namespace Node

/-! ## One offer -/

theorem kind_receive (n : Node) (offer : Offer Child) :
    (n.receive offer).head.kind = n.head.kind := by
  obtain ⟨cell, head, children⟩ := n
  rfl

/-- The bit of the form is added, and no other is taken away. -/
theorem shape_receive (n : Node) (offer : Offer Child) :
    (n.receive offer).head.shape = n.head.shape.union (offer.form.shape n.head.shape) := by
  obtain ⟨cell, head, children⟩ := n
  rw [← settle_bit]
  rfl

theorem stored_receive (n : Node) (offer : Offer Child) :
    offer.form.Stores (n.receive offer).children := by
  obtain ⟨cell, head, children⟩ := n
  exact settle_stores head.shape offer

/-- **ONE OFFER**: the bits of a node that they described describe its new children exactly if the
    former ones had no bit, or the same one. -/
theorem Formed.receive_iff {n : Node} {f : Form} (formed : n.Formed f) (offer : Offer Child) :
    (n.receive offer).Formed offer.form
      ↔ f.shape n.head.kind.shape = .empty
        ∨ f.shape n.head.kind.shape = offer.form.shape n.head.kind.shape := by
  rw [← Form.shape_absorbs f offer.form _ n.head.kind.shape_mem]
  have bit : offer.form.shape n.head.shape = offer.form.shape n.head.kind.shape := by
    rw [formed.shape]
    exact Form.shape_congr _ (Form.contains_element_union _ _ f)
  have shape : (n.receive offer).head.shape
      = (n.head.kind.shape.union (f.shape n.head.kind.shape)).union
          (offer.form.shape n.head.kind.shape) := by
    rw [shape_receive, bit, ← formed.shape]
  -- The bits after the offer are those of its form exactly if the old bit is absorbed by the new
  -- one.
  constructor
  · intro described
    rw [← shape, described.shape, kind_receive]
  · intro absorbed
    refine ⟨?_, stored_receive n offer⟩
    rw [shape, absorbed, kind_receive]

/-! ## Many offers -/

/-- The node after offers, one after another. -/
def receiveAll (n : Node) (offers : List (Offer Child)) : Node := offers.foldl receive n

/-- After each offer, the bits of the node are those of its kind and of the children it was given
    last. -/
def Reflects (n : Node) : List (Offer Child) → Prop
  | [] => True
  | offer :: rest => (n.receive offer).Formed offer.form ∧ (n.receive offer).Reflects rest

/-- **NOTHING IS TAKEN AWAY**: after any offers a node has the bits it had and those of the
    offers. -/
theorem shape_receiveAll (n : Node) (offers : List (Offer Child)) :
    (n.receiveAll offers).head.shape
      = (offers.map fun offer => offer.form.shape n.head.shape).foldl .union n.head.shape := by
  induction offers generalizing n with
  | nil => rfl
  | cons offer rest ih =>
      have later : ∀ o : Offer Child,
          o.form.shape (n.receive offer).head.shape = o.form.shape n.head.shape := by
        intro o
        rw [shape_receive]
        exact Form.shape_congr _ (Form.contains_element_union _ _ _)
      show ((n.receive offer).receiveAll rest).head.shape = _
      rw [ih, List.map_cons, List.foldl_cons, ← shape_receive]
      simp only [later]

/-- Through all offers the bits fit exactly if, from each to the next, the earlier bit is none or
    the same; by induction, since after an offer that fits the node is formed by it. -/
theorem Formed.reflects_iff_chain {n : Node} {f : Form} (formed : n.Formed f)
    (offers : List (Offer Child)) :
    n.Reflects offers
      ↔ ((f :: offers.map Offer.form).map (Form.shape n.head.kind.shape)).IsChain
          fun former new => former = .empty ∨ former = new := by
  induction offers generalizing n f with
  | nil => exact iff_of_true trivial (.singleton _)
  | cons offer rest ih =>
      rw [Reflects, List.map_cons, List.map_cons, List.map_cons, List.isChain_cons_cons,
        ← formed.receive_iff offer]
      refine and_congr_right fun described => ?_
      rw [ih described, kind_receive, List.map_cons]

/-- The node is described in the end, too. -/
theorem Reflects.last {n : Node} {f : Form} {offers : List (Offer Child)}
    (reflects : n.Reflects offers) (formed : n.Formed f) :
    ∃ g, (n.receiveAll offers).Formed g := by
  induction offers generalizing n f with
  | nil => exact ⟨f, formed⟩
  | cons offer rest ih => exact ih reflects.2 reflects.1

/-- **A BIT ONCE SET STAYS**. Of a node that is made and then given other children any number of
    times, the bits are that of its kind and those of all the children it was given, first to last.
    So they are, every time, those of its kind and of the children given last exactly if a bit that
    is once set is that of all later children; and then there is at most one for children. -/
theorem reflects_iff (s : Scene η) (kind : Kind) (props : Option Fields) (first : Offer Child)
    (offers : List (Offer Child)) :
    let made := (s.create kind props first).1
    let bits := (first :: offers).map fun offer => offer.form.shape kind.shape
    (made.receiveAll offers).head.shape = bits.foldl .union kind.shape
    ∧ (made.Reflects offers ↔ bits.IsChain fun former new => former = .empty ∨ former = new)
    ∧ (made.Reflects offers → (made.receiveAll offers).head.shape.childrenClass
        ∈ [Shape.empty, .textChildren, .arrayChildren, .slotsChildren]) := by
  intro made bits
  have formed : made.Formed first.form := s.create_formed kind props first
  refine ⟨?_, ?_, ?_⟩
  -- Whether a mapping has a bit depends on the kind of the node alone, which receiving keeps.
  · have same : ∀ offer : Offer Child,
        offer.form.shape made.head.shape = offer.form.shape kind.shape := by
      intro offer
      rw [formed.shape]
      exact Form.shape_congr _ (Form.contains_element_union _ _ _)
    rw [shape_receiveAll]
    simp only [same]
    rw [formed.shape]
    rfl
  · rw [formed.reflects_iff_chain, List.map_cons, List.map_map]
    rfl
  · intro reflects
    obtain ⟨f, last⟩ := reflects.last formed
    exact last.described.single.2

/-- A paragraph of text that is given an array instead: its bits still say that it has a text. -/
theorem outlived_bit :
    let made := ((Scene.initial : Scene String).create (.element "p") none (.text "x")).1
    let again := made.receive (.array [.text "y"])
    again.children = .array [.text "y"]
    ∧ again.head.shape.contains .textChildren = true
    ∧ again.head.shape.contains .arrayChildren = true
    ∧ ¬ made.Reflects [.array [.text "y"]] := by
  intro made again
  refine ⟨rfl, by decide, by decide, ?_⟩
  rintro ⟨described, -⟩
  exact absurd described.shape (by decide)

end Node

end Vdom
