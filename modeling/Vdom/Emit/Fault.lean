import Vdom.Helper
/-!
# Faults — why no code can be written
-/

namespace Vdom.Emit

/-- What stops the writing of code. -/
inductive Fault where
  /-- An element has no plan. -/
  | unplanned (tag : String)
  /-- A helper has no name. -/
  | unnamed (helper : Helper)
  /-- There is no indentation to take back. -/
  | unindented
  /-- The code ends inside an indented block. -/
  | unbalanced
  deriving DecidableEq, Repr

/-- The wording of a fault. -/
def Fault.message : Fault → String
  | .unplanned tag => "element <" ++ tag ++ "> reached codegen without a codegen node"
  | .unnamed helper =>
    "runtime helper #" ++ toString helper.id.toNat ++
      " is referenced by the AST but was never registered"
  | .unindented => "deindent without matching indent"
  | .unbalanced => "unbalanced indent in generated code"

end Vdom.Emit

namespace Vdom.Registry

/-- The name of a helper that code refers to. -/
def resolve (r : Registry) (h : Helper) : Except Emit.Fault String :=
  match r.name? h with
  | some name => .ok name
  | none => .error (.unnamed h)

end Vdom.Registry
