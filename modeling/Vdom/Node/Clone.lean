import Vdom.Node.Store
/-!
# Clones — a tree with cells of its own

A clone has the same tree as its model, position by position, and every node in it has a new cell
that starts with the bindings of its model. What has an identity of its own is shared with the
model: props, directives, object keys, contexts and slots.
-/

namespace Vdom

variable {η : Type}

mutual

/-- A clone of a node. -/
def Node.clone : Node → Store η → Node × Store η
  | .mk cell head children, s =>
    let (children, s) := children.clone s
    let (copy, s) := s.allocate (s.get cell)
    (.mk copy head children, s)

/-- Children with clones in place of nodes. -/
def Children.clone : Children → Store η → Children × Store η
  | .none, s => (.none, s)
  | .text t, s => (.text t, s)
  | .array entries, s =>
    let (entries, s) := cloneEntries entries s
    (.array entries, s)
  | .slots m, s => (.slots m, s)

/-- Entries with clones in place of nodes. -/
def cloneEntries : List Child → Store η → List Child × Store η
  | [], s => ([], s)
  | entry :: rest, s =>
    let (entry, s) := entry.clone s
    let (rest, s) := cloneEntries rest s
    (entry :: rest, s)

/-- An entry with clones in place of nodes. -/
def Child.clone : Child → Store η → Child × Store η
  | .node n, s =>
    let (n, s) := n.clone s
    (.node n, s)
  | .text t, s => (.text t, s)
  | .array entries, s =>
    let (entries, s) := cloneEntries entries s
    (.array entries, s)

end

/-- The node itself while it is not mounted, a clone afterwards, so that a new render never
    shares a cell with a mounted one. -/
def Node.cloneIfMounted (n : Node) (s : Store η) : Node × Store η :=
  if s.isMounted n then n.clone s else (n, s)

end Vdom
