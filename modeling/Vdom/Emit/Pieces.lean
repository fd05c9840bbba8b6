import Vdom.Emit.Arguments
import Vdom.Emit.Buffer
import Vdom.Template
import Vdom.Text.Quoted
/-!
# Pieces of a template — what each node appends

Every node is written on its own, whatever stands before it: its pieces depend on the node and on
the names of helpers alone. A node that cannot be written yields its first fault in reading order.

* Text and static atoms are quoted; other atoms are pasted.
* A call lists its tag, props and children as arguments, without absent ones at the end.
* An array and a list of children stand in brackets, an object in braces.
-/

namespace Vdom.Emit

/-- What writing yields. -/
abbrev Written := Except Fault (List Piece)

/-- The function that makes nodes. -/
def nodeFunction : String := "h"

/-- Runs of pieces with a comma between neighbours. -/
def commaSeparated : List (List Piece) → List Piece
  | [] => []
  | [run] => run
  | run :: rest => run ++ .code ", " :: commaSeparated rest

/-- Runs of pieces as an array. -/
def bracketed (runs : List (List Piece)) : List Piece :=
  .code "[" :: (commaSeparated runs ++ [.code "]"])

/-- The name of a helper. -/
def symbolPieces (registry : Registry) (helper : Helper) : Written :=
  (registry.resolve helper).map fun name => [.use helper, .code name]

/-- The text of an atom. -/
def atomText (a : Atom) : String :=
  if a.isStatic then quote a.content else a.content

/-- An atom in its place. -/
def atomPieces (a : Atom) : List Piece :=
  Piece.spanned (atomText a) a.span

mutual

/-- An expression. -/
def exprPieces (registry : Registry) : Expr → Written
  | .atom a => .ok (atomPieces a)
  | .compound parts _ => partsPieces registry parts

/-- A part of a compound. -/
def partPieces (registry : Registry) : Part → Written
  | .atom a => .ok (atomPieces a)
  | .compound parts _ => partsPieces registry parts
  | .interpolation content _ => exprPieces registry content
  | .text content span => .ok (Piece.spanned (quote content) span)
  | .raw code => .ok [.code code]
  | .symbol helper => symbolPieces registry helper

/-- The parts of a compound, pasted together. -/
def partsPieces (registry : Registry) : List Part → Written
  | [] => .ok []
  | part :: rest => do
    let first ← partPieces registry part
    let others ← partsPieces registry rest
    .ok (first ++ others)

end

/-- A property key: a static atom is quoted, all else is computed in brackets. -/
def keyPieces (registry : Registry) : Expr → Written
  | .atom a =>
    if a.isStatic then .ok (atomPieces a)
    else .ok (Piece.spanned "[" a.span ++ [.code a.content, .code "]"])
  | .compound parts _ => do
    let inner ← partsPieces registry parts
    .ok (.code "[" :: (inner ++ [.code "]"]))

/-- The tag of a call. -/
def tagPieces (registry : Registry) : Tag → Written
  | .name tag => .ok [.code (quote tag)]
  | .dynamic code => .ok [.code code]
  | .symbol helper => symbolPieces registry helper

mutual

/-- A node of a template. Parsed children are never written. -/
def templatePieces (registry : Registry) : Template → Written
  | .element tag _ plan _ => planPieces registry tag plan
  | .text content span => .ok (Piece.spanned (quote content) span)
  | .interpolation content _ => exprPieces registry content
  | .compound parts _ => partsPieces registry parts

/-- What stands for the element `tag`. -/
def planPieces (registry : Registry) (tag : String) : Plan → Written
  | .missing => .error (.unplanned tag)
  | .call c => callPieces registry c
  | .atom a => .ok (atomPieces a)

/-- A call that makes a node. -/
def callPieces (registry : Registry) : Call → Written
  | .mk tag props content span => do
    let first ← tagPieces registry tag
    let second ← propsPieces registry props
    let third ← contentPieces registry content
    let arguments := fillGaps [.code "null"] [some first, second, third]
    .ok (Piece.spanned nodeFunction span ++ .code "(" :: (commaSeparated arguments ++ [.code ")"]))

/-- The props of a call, if it has any. -/
def propsPieces (registry : Registry) : Option Operand → Except Fault (Option (List Piece))
  | none => .ok none
  | some value => (operandPieces registry value).map some

/-- The children of a call, if it has any. -/
def contentPieces (registry : Registry) : Content → Except Fault (Option (List Piece))
  | .absent => .ok none
  | .many children => (childrenPieces registry children).map fun runs => some (bracketed runs)
  | .one child => (templatePieces registry child).map some
  | .operand value => (operandPieces registry value).map some

/-- The nodes of a list, each on its own. -/
def childrenPieces (registry : Registry) : List Template → Except Fault (List (List Piece))
  | [] => .ok []
  | child :: rest => do
    let first ← templatePieces registry child
    let others ← childrenPieces registry rest
    .ok (first :: others)

/-- A value in the code. -/
def operandPieces (registry : Registry) : Operand → Written
  | .call c => callPieces registry c
  | .object properties span => do
    match ← propertiesPieces registry properties with
    | [] => .ok (Piece.spanned "\x7b\x7d" span)
    | runs => .ok (Piece.spanned "\x7b " span ++ (commaSeparated runs ++ [.code " \x7d"]))
  | .array items span => do
    let runs ← itemsPieces registry items
    .ok (Piece.spanned "" span ++ bracketed runs)
  | .atom a => .ok (atomPieces a)
  | .compound parts _ => partsPieces registry parts

/-- The properties of an object, each on its own. -/
def propertiesPieces (registry : Registry) : List Property → Except Fault (List (List Piece))
  | [] => .ok []
  | property :: rest => do
    let first ← propertyPieces registry property
    let others ← propertiesPieces registry rest
    .ok (first :: others)

/-- A property: key, colon, value. -/
def propertyPieces (registry : Registry) : Property → Written
  | .mk key value _ => do
    let first ← keyPieces registry key
    let second ← operandPieces registry value
    .ok (first ++ .code ": " :: second)

/-- The items of an array, each on its own. -/
def itemsPieces (registry : Registry) : List Item → Except Fault (List (List Piece))
  | [] => .ok []
  | item :: rest => do
    let first ← itemPieces registry item
    let others ← itemsPieces registry rest
    .ok (first :: others)

/-- An item of an array. -/
def itemPieces (registry : Registry) : Item → Written
  | .raw code => .ok [.code code]
  | .operand value => operandPieces registry value

end

end Vdom.Emit
