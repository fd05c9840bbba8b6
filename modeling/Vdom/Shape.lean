/-!
# Shape — what a node is and what its children are

A shape is a 32-bit pattern. Two bits say what the node stands for, three say what form its
children have; text nodes and fragments carry none of the first two. Bits outside these five have
no meaning and are kept as they are.
-/

namespace Vdom

/-- A pattern of shape bits. -/
structure Shape where
  bits : UInt32
  deriving DecidableEq, Repr, Inhabited

namespace Shape

/-- No bit. -/
def empty : Shape := ⟨0⟩

/-- The node is a host element. -/
def element : Shape := ⟨1⟩

/-- The node is a component. -/
def component : Shape := ⟨4⟩

/-- The children are a text. -/
def textChildren : Shape := ⟨8⟩

/-- The children are an array. -/
def arrayChildren : Shape := ⟨16⟩

/-- The children are slots. -/
def slotsChildren : Shape := ⟨32⟩

/-- The bits of either pattern. -/
def union (a b : Shape) : Shape := ⟨a.bits ||| b.bits⟩

/-- The bits of both patterns. -/
def inter (a b : Shape) : Shape := ⟨a.bits &&& b.bits⟩

/-- The bits of the first pattern that the second lacks. -/
def diff (a b : Shape) : Shape := ⟨a.bits &&& ~~~b.bits⟩

/-- Whether no bit is set. -/
def isEmpty (a : Shape) : Bool := a.bits = 0

/-- Whether `a` has all bits of `b`. -/
def contains (a b : Shape) : Bool := a.inter b = b

/-- Whether the patterns share a bit. -/
def intersects (a b : Shape) : Bool := !(a.inter b).isEmpty

/-- The bits that say what the node stands for. -/
def kindMask : Shape := element.union component

/-- The bits that say what the children are. -/
def childrenMask : Shape := textChildren.union (arrayChildren.union slotsChildren)

/-- All bits with a meaning. -/
def knownMask : Shape := kindMask.union childrenMask

/-- What the node stands for. -/
def kindClass (a : Shape) : Shape := a.inter kindMask

/-- What the children are. -/
def childrenClass (a : Shape) : Shape := a.inter childrenMask

/-- The bits with a meaning. -/
def known (a : Shape) : Shape := a.inter knownMask

/-- The shape of a pattern in which every bit has a meaning. -/
def ofBits? (bits : UInt32) : Option Shape :=
  if (Shape.mk bits).known = ⟨bits⟩ then some ⟨bits⟩ else none

end Shape

end Vdom
