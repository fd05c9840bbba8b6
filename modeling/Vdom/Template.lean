import Vdom.Helper
import Vdom.Source.Span
/-!
# Templates — the tree that code is written from

* **`Atom`** — an expression in one piece; a static one is the text of a string.
* **`Expr`**, **`Part`** — expressions, and the parts that a compound one is pasted together from.
* **`Template`** — what stands in a template: elements, texts, interpolations, compounds.
* **`Plan`** — what stands for an element in the code, decided before code is written.
* **`Call`**, **`Content`**, **`Operand`** — the call that makes a node, its children, and the
  values that calls, objects and arrays are built from.

Every node carries the span it comes from.
-/

namespace Vdom

/-- An expression in one piece: code, or the text of a string if static. -/
structure Atom where
  content : String
  isStatic : Bool
  span : Span
  deriving DecidableEq, Repr

mutual

/-- An expression. -/
inductive Expr where
  | atom (a : Atom)
  | compound (parts : List Part) (span : Span)

/-- A part of a compound expression. -/
inductive Part where
  | atom (a : Atom)
  | compound (parts : List Part) (span : Span)
  | interpolation (content : Expr) (span : Span)
  | text (content : String) (span : Span)
  /-- Code pasted as it stands. -/
  | raw (code : String)
  /-- The name of a helper. -/
  | symbol (helper : Helper)

end

/-- What a call makes a node of. -/
inductive Tag where
  /-- A host element, by its name. -/
  | name (tag : String)
  /-- Code that evaluates to a component. -/
  | dynamic (code : String)
  /-- A helper that stands for a kind of node. -/
  | symbol (helper : Helper)
  deriving DecidableEq, Repr

mutual

/-- A node of a template. -/
inductive Template where
  | element (tag : String) (parsed : List Template) (plan : Plan) (span : Span)
  | text (content : String) (span : Span)
  | interpolation (content : Expr) (span : Span)
  | compound (parts : List Part) (span : Span)

/-- What stands for an element in the code. -/
inductive Plan where
  | missing
  | call (call : Call)
  | atom (a : Atom)

/-- A call that makes a node. -/
inductive Call where
  | mk (tag : Tag) (props : Option Operand) (content : Content) (span : Span)

/-- The children of a call. -/
inductive Content where
  | absent
  | many (children : List Template)
  | one (child : Template)
  | operand (value : Operand)

/-- A value in the code. -/
inductive Operand where
  | call (call : Call)
  | object (properties : List Property) (span : Span)
  | array (items : List Item) (span : Span)
  | atom (a : Atom)
  | compound (parts : List Part) (span : Span)

/-- A property of an object. -/
inductive Property where
  | mk (key : Expr) (value : Operand) (span : Span)

/-- An entry of an array. -/
inductive Item where
  /-- Code pasted as it stands. -/
  | raw (code : String)
  | operand (value : Operand)

end

/-- A whole template, with the helpers that its code is known to need. -/
structure Root where
  children : List Template
  helpers : List Helper
  source : String
  span : Span

namespace Expr

/-- Where an expression stands. -/
def span : Expr → Span
  | .atom a => a.span
  | .compound _ s => s

end Expr

namespace Template

/-- Where a node stands. -/
def span : Template → Span
  | .element _ _ _ s => s
  | .text _ s => s
  | .interpolation _ s => s
  | .compound _ s => s

end Template

namespace Call

/-- Where a call stands. -/
def span : Call → Span
  | .mk _ _ _ s => s

end Call

namespace Operand

/-- Where a value stands. -/
def span : Operand → Span
  | .call c => c.span
  | .object _ s => s
  | .array _ s => s
  | .atom a => a.span
  | .compound _ s => s

end Operand

end Vdom
