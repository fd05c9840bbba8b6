import Vdom.Value
/-!
# Components — what nodes refer to and do not own

Some things are equal only to themselves. `Shared` gives a value an identity; two shared values
with one identity are the same thing. Instances and slots are compared by identity too.
-/

namespace Vdom

/-- A value with an identity. -/
structure Shared (α : Type) where
  id : Nat
  value : α

/-- Whether two shared values are the same thing. -/
def Shared.is {α : Type} (a b : Shared α) : Bool := a.id == b.id

/-- The definition of a component: its name, and its declared props with their defaults. -/
structure Component where
  name : Option String
  props : Fields

/-- What an instance is made of. -/
inductive Payload where
  | text (s : String)
  | word (w : UInt32)
  deriving DecidableEq, Repr

/-- An instance of a component. -/
abbrev Instance := Shared Payload

/-- The text of an instance, if it is made of one. -/
def Instance.text? (i : Instance) : Option String :=
  match i.value with
  | .text s => some s
  | .word _ => none

/-- The word of an instance, if it is made of one. -/
def Instance.word? (i : Instance) : Option UInt32 :=
  match i.value with
  | .text _ => none
  | .word w => some w

/-- A function that renders part of a component, by its identity. -/
structure Slot where
  id : Nat
  deriving DecidableEq, Repr

/-- Slots under names. -/
abbrev Slots := Dictionary Slot

/-- The name of a slot that is given without one. -/
def Slot.defaultName : String := "default"

/-- A directive applied to a node. -/
structure Directive where
  name : String
  value : Value
  old : Value
  argument : Option String

/-- Whether two directives are equal. -/
def Directive.same (a b : Directive) : Bool :=
  a.name == b.name && a.value.same b.value && a.old.same b.old && a.argument == b.argument

/-- Whether two lists hold equal directives. -/
def sameDirectives : List Directive → List Directive → Bool
  | [], [] => true
  | a :: as, b :: bs => a.same b && sameDirectives as bs
  | _, _ => false

/-- What a whole application shares. -/
structure AppContext where
  globals : Fields
  provides : Fields

/-- Whether two application contexts are equal. -/
def AppContext.same (a b : AppContext) : Bool :=
  sameFields a.globals b.globals && sameFields a.provides b.provides

end Vdom
