import Vdom.Node.Clone
import Vdom.Node.Sketch
/-!
# Scenes — making nodes while instances render

A scene holds the bindings of all nodes, the instance that renders at present, the number of
identities given out, and what its slots render.

* **`create`** — a node from its kind, its props and an offer of children; key and reference are
  read from the props, and the rendering instance becomes its context.
* **`normalize`** — a child as a node ready to be mounted.
* **`enter`**, **`leave`** — an instance renders until its guard is dropped, then whatever was
  rendering when the guard was made.
-/

namespace Vdom

/-- The state in which nodes are made. -/
structure Scene (η : Type) where
  store : Store η
  /-- The instance that renders at present. -/
  rendering : Option Instance
  /-- The next identity. -/
  next : Nat
  /-- What each slot renders. -/
  recipes : List (Slot × List Sketch)

namespace Scene

variable {η : Type}

/-- Nothing has been made and nothing renders. -/
def initial : Scene η := ⟨.empty, none, 0, []⟩

/-! ## Identities -/

/-- The scene after giving out an identity. -/
def identity (s : Scene η) : Nat × Scene η :=
  (s.next, { s with next := s.next + 1 })

/-- A value with a new identity. -/
def share {α : Type} (s : Scene η) (a : α) : Shared α × Scene η :=
  let (id, s) := s.identity
  (⟨id, a⟩, s)

/-- A value, if there is one, with a new identity. -/
def shareOption {α : Type} (s : Scene η) : Option α → Option (Shared α) × Scene η
  | none => (none, s)
  | some a =>
    let (a, s) := s.share a
    (some a, s)

/-- A new slot that renders children from sketches. -/
def slot (s : Scene η) (sketches : List Sketch) : Slot × Scene η :=
  let (id, s) := s.identity
  (⟨id⟩, { s with recipes := (⟨id⟩, sketches) :: s.recipes })

/-! ## The rendering instance -/

/-- Let an instance render, or none; yields the one that rendered before. -/
def setRendering (s : Scene η) (i : Option Instance) : Option Instance × Scene η :=
  (s.rendering, { s with rendering := i })

end Scene

/-- What was rendering when an instance began to. -/
structure Guard where
  previous : Option Instance

namespace Scene

variable {η : Type}

/-- Let an instance render until its guard is dropped. -/
def enter (s : Scene η) (i : Instance) : Guard × Scene η :=
  let (previous, s) := s.setRendering (some i)
  (⟨previous⟩, s)

/-- Drop a guard. -/
def leave (s : Scene η) (g : Guard) : Scene η :=
  (s.setRendering g.previous).2

/-! ## Making nodes -/

/-- The value of a prop that is not `null`. -/
def propValue? (name : String) (props : Fields) : Option Value :=
  match props.lookup name with
  | some .null => none
  | v => v

/-- Make a node. -/
def create (s : Scene η) (kind : Kind) (props : Option Fields) (offer : Offer Child) :
    Node × Scene η :=
  let (keyId, s) := s.identity
  let (shared, s) := s.shareOption props
  let (cell, store) := s.store.allocate .empty
  let head : Head := {
    kind
    props := shared
    key := props.bind (propValue? "key") |>.bind (Key.ofValue keyId)
    ref := props.bind (propValue? "ref")
    shape := kind.shape
    directives := none
    context := s.rendering
    app := none }
  (((Node.mk cell head .none).receive offer).markChildren, { s with store })

/-- Make a text node; without a text it holds a single space. -/
def createText (s : Scene η) (text : Option String) : Node × Scene η :=
  s.create .text none (.text (text.getD " "))

/-- The node with directives and an application context, where they are given. -/
def adorn (s : Scene η) (extras : Extras) : Node → Node × Scene η
  | .mk cell head children =>
    let (directives, s) := s.shareOption extras.directives
    let (app, s) := s.shareOption extras.app
    (.mk cell { head with
      directives := directives.or head.directives
      app := app.or head.app } children, s)

/-! ## Cloning and normalising -/

/-- A clone of a node. -/
def clone (s : Scene η) (n : Node) : Node × Scene η :=
  let (n, store) := n.clone s.store
  (n, { s with store })

/-- The node itself while it is not mounted, a clone afterwards. -/
def cloneIfMounted (s : Scene η) (n : Node) : Node × Scene η :=
  let (n, store) := n.cloneIfMounted s.store
  (n, { s with store })

theorem cloneIfMounted_of_mounted {s : Scene η} {n : Node} (mounted : s.store.isMounted n = true) :
    s.cloneIfMounted n = s.clone n := by
  rw [cloneIfMounted, Node.cloneIfMounted, if_pos mounted]
  rfl

theorem cloneIfMounted_of_not_mounted {s : Scene η} {n : Node}
    (unbound : ¬ s.store.isMounted n = true) : s.cloneIfMounted n = (n, s) := by
  rw [cloneIfMounted, Node.cloneIfMounted, if_neg unbound]

/-- A child as a node ready to be mounted: a text in a text node, an array in a fragment. -/
def normalize (s : Scene η) : Child → Node × Scene η
  | .node n => s.cloneIfMounted n
  | .text t => s.create .text none (.text t)
  | .array entries => s.create .fragment none (.array entries)

/-- A clone of a node with other children. -/
def renew (s : Scene η) (n : Node) (offer : Offer Child) : Node × Scene η :=
  let (n, s) := s.clone n
  (n.receive offer, s)

/-- Write the bindings of a node. -/
def bind (s : Scene η) (n : Node) (b : Bindings η) : Scene η :=
  { s with store := s.store.set n.cell b }

/-! ## Sketches -/

mutual

/-- The child of a sketch. -/
def build : Sketch → Scene η → Child × Scene η
  | .text t, s => (.text t, s)
  | .array entries, s =>
    let (entries, s) := buildAll entries s
    (.array entries, s)
  | .shared n, s => (.node n, s)
  | .fresh kind props offer extras, s =>
    let (offer, s) := buildOffer offer s
    let (n, s) := s.create kind props offer
    let (n, s) := s.adorn extras n
    (.node n, s)

/-- The children of sketches, made from left to right. -/
def buildAll : List Sketch → Scene η → List Child × Scene η
  | [], s => ([], s)
  | sketch :: rest, s =>
    let (child, s) := build sketch s
    let (children, s) := buildAll rest s
    (child :: children, s)

/-- The offer of an offer in sketches. -/
def buildOffer : Offer Sketch → Scene η → Offer Child × Scene η
  | .none, s => (.none, s)
  | .text t, s => (.text t, s)
  | .number x, s => (.number x, s)
  | .bool b, s => (.bool b, s)
  | .array entries, s =>
    let (entries, s) := buildAll entries s
    (.array entries, s)
  | .slots m, s => (.slots m, s)
  | .render slot, s => (.render slot, s)

end

/-- The children that a slot renders now. -/
def callSlot (s : Scene η) (slot : Slot) : List Child × Scene η :=
  buildAll ((s.recipes.lookup slot).getD []) s

end Scene

end Vdom
