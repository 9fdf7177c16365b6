/-!
# Blank characters

The characters that separate lexemes, and the smaller set that may stand around a numeral.
-/

namespace Formulary.Text

/-- A blank separates lexemes and belongs to none: the space characters, line ends, tabs, the
    four information separators and the wide spaces. -/
def isBlank (c : Char) : Bool :=
  let code := c.toNat
  (0x09 ≤ code && code ≤ 0x0D) || (0x1C ≤ code && code ≤ 0x20) || code == 0x85 || code == 0xA0
    || code == 0x1680 || (0x2000 ≤ code && code ≤ 0x200A) || code == 0x2028 || code == 0x2029
    || code == 0x202F || code == 0x205F || code == 0x3000

/-- The four information separators are blank in a formula but no margin of a numeral. -/
def isSeparator (c : Char) : Bool :=
  0x1C ≤ c.toNat && c.toNat ≤ 0x1F

/-- The blanks that may surround a numeral. -/
def isMargin (c : Char) : Bool :=
  isBlank c && !isSeparator c

/-- A text without the margin at its two ends. -/
def trimMargins (cs : List Char) : List Char :=
  ((cs.dropWhile isMargin).reverse.dropWhile isMargin).reverse

end Formulary.Text
