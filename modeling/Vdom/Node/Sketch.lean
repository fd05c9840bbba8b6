import Vdom.Node.Offer
/-!
# Sketches — children described but not made

A render function makes its children anew at every call. A sketch describes such children: the
nodes that exist already, by themselves, and the nodes to be made, by what they are made of.
-/

namespace Vdom

/-- What is stored in a node after it is made. -/
structure Extras where
  directives : Option (List Directive)
  app : Option AppContext

/-- A child to be made. -/
inductive Sketch where
  | text (s : String)
  | array (entries : List Sketch)
  /-- A node that exists. -/
  | shared (n : Node)
  /-- A node to be made. -/
  | fresh (kind : Kind) (props : Option Fields) (offer : Offer Sketch) (extras : Extras)

end Vdom
