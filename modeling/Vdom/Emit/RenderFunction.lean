import Vdom.Emit.Pieces
import Vdom.Text.Parts
/-!
# Render functions — the code of a whole template

The function binds the node function and the helpers of the template once each, by name, from the
runtime global, and returns the template: `null` without children, the child itself if it is the
only one, and a fragment of several.
-/

namespace Vdom.Emit

/-- The code of a template, the helpers it refers to, and where its places come from. -/
structure Generated where
  code : String
  helpers : List Helper
  mappings : List Mapping
  deriving DecidableEq, Repr

/-- A list of names with one more at its end, unless it is there. -/
def addName (names : List String) (name : String) : List String :=
  if names.contains name then names else names ++ [name]

/-- Add the names of helpers to those bound so far, their use recorded. -/
def bindNames (registry : Registry) (names : List String) (b : Buffer) :
    List Helper → Except Fault (List String × Buffer)
  | [] => .ok (names, b)
  | helper :: rest => do
    let (name, b) ← b.resolve registry helper
    bindNames registry (addName names name) b rest

/-- The helpers whose names a template binds: its own, and the fragment of several children. -/
def boundHelpers (root : Root) : List Helper :=
  root.helpers ++ if 1 < root.children.length then [Helper.fragment] else []

/-- Bind the names that the code needs from the runtime global, and leave a blank line. -/
def preamble (registry : Registry) (root : Root) (b : Buffer) : Except Fault Buffer := do
  let (names, b) ← bindNames registry [nodeFunction] b (boundHelpers root)
  let b := b.put ("const \x7b " ++ Text.join ", " names ++ " \x7d = ")
  let b := b.put b.options.runtimeGlobalName
  .ok (b.put "\n").breakLine

/-- What the function returns. -/
def returned (registry : Registry) : List Template → Written
  | [] => .ok [.code "null"]
  | [child] => templatePieces registry child
  | children => do
    let wrapper ← symbolPieces registry Helper.fragment
    let runs ← childrenPieces registry children
    .ok (.code nodeFunction :: .code "(" :: wrapper ++ .code ", null, " ::
      (bracketed runs ++ [.code ")"]))

/-- The result that a finished buffer holds. -/
def Buffer.finish (b : Buffer) : Except Fault Generated :=
  if b.depth = 0 then .ok ⟨b.code, b.used.toList, b.mappings⟩ else .error .unbalanced

/-- The code of a template. -/
def generate (registry : Registry) (options : Options) (root : Root) : Except Fault Generated := do
  let b := Buffer.empty options
  let b := if options.isBrowser then b.put "return " else b
  let b := (b.put "function render(_ctx) \x7b ").indent
  let b ← preamble registry root b
  let b := b.put "return "
  let b := b.addAll (← returned registry root.children)
  let b ← b.dedent false
  (b.put " \x7d").finish

end Vdom.Emit
