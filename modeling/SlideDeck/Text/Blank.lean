/-!
# Blank characters

The characters that separate words, and the smaller set that may pad a number. Both are fixed sets
of code points: a zero-width space and a byte-order mark are in neither.
-/

namespace SlideDeck.Text

/-- A character that separates words: the white space of Unicode, and the four information
separators U+001C to U+001F. -/
def isBlank (c : Char) : Bool :=
  let n := c.toNat
  (0x09 ≤ n && n ≤ 0x0d) || (0x1c ≤ n && n ≤ 0x20) || n == 0x85 || n == 0xa0 || n == 0x1680 ||
    (0x2000 ≤ n && n ≤ 0x200a) || n == 0x2028 || n == 0x2029 || n == 0x202f || n == 0x205f ||
    n == 0x3000

/-- A character that may stand around a number: blank, and not an information separator. -/
def isPadding (c : Char) : Bool :=
  isBlank c && !(0x1c ≤ c.toNat && c.toNat ≤ 0x1f)

/-- The text without the padding at its two ends. -/
def unpad (cs : List Char) : List Char :=
  ((cs.dropWhile isPadding).reverse.dropWhile isPadding).reverse

/-- A line that holds blank characters only. -/
def isBlankLine (cs : List Char) : Bool :=
  cs.all isBlank

end SlideDeck.Text
