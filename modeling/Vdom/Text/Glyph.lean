import Vdom.Text.Extending
import Vdom.Text.Unassigned
/-!
# Glyphs — characters that cannot be seen by themselves

Controls, formats, separators other than the space, private use, fillers, code points without a
character, and marks that attach to the character before them. In a message such a character
would vanish or change its neighbour.
-/

namespace Vdom.Text

/-- The runs of controls, formats, separators other than the space, and private use: the general
    categories `Cc`, `Cf`, `Zs`, `Zl`, `Zp` and `Co` of Unicode 17.0. -/
def invisibleRuns : List Run :=
  [(0x0, 0x1f), (0x7f, 0xa0), (0xad, 0xad), (0x600, 0x605), (0x61c, 0x61c), (0x6dd, 0x6dd),
    (0x70f, 0x70f), (0x890, 0x891), (0x8e2, 0x8e2), (0x1680, 0x1680), (0x180e, 0x180e),
    (0x2000, 0x200f), (0x2028, 0x202f), (0x205f, 0x2064), (0x2066, 0x206f), (0x3000, 0x3000),
    (0xe000, 0xf8ff), (0xfeff, 0xfeff), (0xfff9, 0xfffb), (0x110bd, 0x110bd), (0x110cd, 0x110cd),
    (0x13430, 0x1343f), (0x1bca0, 0x1bca3), (0x1d173, 0x1d17a), (0xe0001, 0xe0001),
    (0xe0020, 0xe007f), (0xf0000, 0xffffd), (0x100000, 0x10fffd)]

/-- The Hangul fillers: letters that are drawn as nothing. -/
def fillerRuns : List Run :=
  [(0x115f, 0x1160), (0x3164, 0x3164), (0xffa0, 0xffa0)]

/-- The halfwidth sound marks of Katakana: they extend the character before them in a cell of
    their own. -/
def halfwidthMarkRuns : List Run :=
  [(0xff9e, 0xff9f)]

/-- Whether a character has no glyph of its own. -/
def isGlyphless (c : Char) : Bool :=
  inRuns invisibleRuns c || inRuns fillerRuns c || isUnassigned c ||
    isExtending c && !inRuns halfwidthMarkRuns c

end Vdom.Text
