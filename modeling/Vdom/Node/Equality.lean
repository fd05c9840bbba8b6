import Vdom.Node.Store
/-!
# Equality of nodes — the same tree with the same bindings

Nodes are equal if their trees are: kind, props, key, reference, shape, directives, contexts and
bindings of every node. Components, instances, slots and object keys are compared by identity,
all else by value, so distinct nodes may be equal.
-/

namespace Vdom

/-- Whether two shared values are equal as values. -/
def Shared.sameValue {α : Type} (same : α → α → Bool) (a b : Shared α) : Bool :=
  same a.value b.value

/-- Whether two nodes are the same, apart from bindings and children. -/
def Head.same (a b : Head) : Bool :=
  a.kind.same b.kind
    && sameOption (Shared.sameValue sameFields) a.props b.props
    && sameOption Key.same a.key b.key
    && sameOption Value.same a.ref b.ref
    && a.shape == b.shape
    && sameOption (Shared.sameValue sameDirectives) a.directives b.directives
    && sameOption Shared.is a.context b.context
    && sameOption (Shared.sameValue AppContext.same) a.app b.app

variable {η : Type} [BEq η]

/-- Whether two cells hold equal bindings; instances compare by identity. -/
def Bindings.same (a b : Bindings η) : Bool :=
  a.element == b.element && a.anchor == b.anchor && sameOption Shared.is a.component b.component

mutual

/-- Whether two nodes are equal. -/
def Node.same (s : Store η) : Node → Node → Bool
  | .mk cellA headA childrenA, .mk cellB headB childrenB =>
    headA.same headB && (s.get cellA).same (s.get cellB) && childrenA.same s childrenB
termination_by structural a => a

/-- Whether the children of two nodes are equal. -/
def Children.same (s : Store η) : Children → Children → Bool
  | .none, .none => true
  | .text a, .text b => a == b
  | .array as, .array bs => sameEntries s as bs
  | .slots a, .slots b => a.same (· == ·) b
  | _, _ => false
termination_by structural a => a

/-- Whether two lists hold equal entries. -/
def sameEntries (s : Store η) : List Child → List Child → Bool
  | [], [] => true
  | a :: as, b :: bs => a.same s b && sameEntries s as bs
  | _, _ => false
termination_by structural a => a

/-- Whether two entries are equal. -/
def Child.same (s : Store η) : Child → Child → Bool
  | .node a, .node b => a.same s b
  | .text a, .text b => a == b
  | .array as, .array bs => sameEntries s as bs
  | _, _ => false
termination_by structural a => a

end

end Vdom
