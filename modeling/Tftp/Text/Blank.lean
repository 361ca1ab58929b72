import Tftp.Text.Ranges

/-! # Blank characters

The property `White_Space` of the Unicode standard, and the trimming of a text by it. -/

namespace Tftp.Text

/-- The ranges of `White_Space`. -/
def blankRanges : Ranges :=
  [(0x09, 0x0D), (0x20, 0x20), (0x85, 0x85), (0xA0, 0xA0), (0x1680, 0x1680), (0x2000, 0x200A),
   (0x2028, 0x2029), (0x202F, 0x202F), (0x205F, 0x205F), (0x3000, 0x3000)]

/-- The character has `White_Space`. -/
def isBlank (c : Char) : Bool := blankRanges.contains c

/-- The text without the blank characters at its two ends. -/
def trim (text : List Char) : List Char :=
  ((text.dropWhile isBlank).reverse.dropWhile isBlank).reverse

end Tftp.Text
