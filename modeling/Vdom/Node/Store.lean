import Vdom.Node
/-!
# Stores — bindings of nodes to the host

Every node has a cell, and cells are never given back. `η` is what a renderer uses to refer to
the nodes of its host.
-/

namespace Vdom

/-- What a renderer writes on a node when it mounts it. -/
structure Bindings (η : Type) where
  element : Option η
  /-- The host node after the last child of a fragment. -/
  anchor : Option η
  component : Option Instance

/-- Nothing is bound. -/
def Bindings.empty {η : Type} : Bindings η := ⟨none, none, none⟩

/-- The bindings of all nodes, cell by cell. -/
structure Store (η : Type) where
  cells : Array (Bindings η)

namespace Store

variable {η : Type}

/-- No cells. -/
def empty : Store η := ⟨#[]⟩

/-- The bindings in a cell. -/
def get (s : Store η) (cell : Nat) : Bindings η := s.cells[cell]?.getD .empty

/-- Replace the bindings in a cell. -/
def set (s : Store η) (cell : Nat) (b : Bindings η) : Store η :=
  ⟨s.cells.setIfInBounds cell b⟩

/-- A new cell with bindings. -/
def allocate (s : Store η) (b : Bindings η) : Nat × Store η :=
  (s.cells.size, ⟨s.cells.push b⟩)

/-- Writing one cell leaves the others as they are. -/
theorem get_set_of_ne (s : Store η) (b : Bindings η) {cell other : Nat} (apart : cell ≠ other) :
    (s.set cell b).get other = s.get other := by
  unfold get set
  rw [Array.getElem?_setIfInBounds_ne apart]

/-- Whether a node is bound to a host node. -/
def isMounted (s : Store η) (n : Node) : Bool := (s.get n.cell).element.isSome

end Store

end Vdom
