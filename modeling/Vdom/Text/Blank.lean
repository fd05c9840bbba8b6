import Vdom.Text.Runs
/-!
# Blank characters — what trimming removes

The twenty-five code points of the Unicode property `White_Space`, and `trim`, which drops them
at both ends of a text and nowhere else.
-/

namespace Vdom.Text

/-- The runs of blank characters. -/
def blankRuns : List Run :=
  [(0x09, 0x0d), (0x20, 0x20), (0x85, 0x85), (0xa0, 0xa0), (0x1680, 0x1680), (0x2000, 0x200a),
    (0x2028, 0x2029), (0x202f, 0x202f), (0x205f, 0x205f), (0x3000, 0x3000)]

/-- Whether a character has the property `White_Space`. -/
def isBlank (c : Char) : Bool := inRuns blankRuns c

/-- The characters from the first that is not blank to the last that is not. -/
def trim (cs : List Char) : List Char :=
  ((cs.dropWhile isBlank).reverse.dropWhile isBlank).reverse

end Vdom.Text
