/-!
# Parts of a text — cutting at a mark and joining with one

* **`splitAt`** — the pieces between the occurrences of a character; always at least one piece.
* **`join`** — pieces with a separator between neighbours.
-/

namespace Vdom.Text

/-- The pieces of `cs` between the occurrences of `mark`, empty ones included. -/
def splitAt (mark : Char) : List Char → List (List Char)
  | [] => [[]]
  | c :: rest =>
    if c = mark then [] :: splitAt mark rest
    else
      match splitAt mark rest with
      | [] => [[c]]
      | piece :: pieces => (c :: piece) :: pieces

/-- The texts one after another with `separator` between neighbours. -/
def join (separator : String) : List String → String
  | [] => ""
  | [s] => s
  | s :: rest => s ++ separator ++ join separator rest

end Vdom.Text
