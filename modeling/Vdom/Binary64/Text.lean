import Vdom.Decimal.Notation
/-!
# Number text — how a number reads on a page

The shortest digits that read back, positional from `10^-6` up to twenty-one digits, an exponent
with its sign beyond. Zero has no sign.
-/

namespace Vdom.Binary64

/-- Ties go up, whole numbers have no point, and twenty-one digits may stand before it or five
    zeros after it. -/
def pageLayout : Decimal.Layout :=
  { tie := .up, widest := 21, deepest := -6, wholeMark := [] }

/-- The text of a number as the text content of a node. -/
def text (x : Binary64) : String :=
  if x.isNaN then "NaN"
  else if x.isZero then "0"
  else
    let sign := if x.negative then ['-'] else []
    let body := if x.isFinite then pageLayout.write x else "Infinity".toList
    String.ofList (sign ++ body)

end Vdom.Binary64
