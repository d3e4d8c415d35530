/-!
# Blank characters and trimming

A blank is a character that separates words or lines: the space, the controls that move to a
new column or line, the four information separators, and the other space separators of the
Unicode standard.

* `isBlank`, `isBlankText` — blank characters, and texts made of blanks only.
* `trimLeft`, `trimRight`, `trim` — remove the blanks at one end, or at both.
-/

namespace TypeExport.Text

/-- A character that separates words or lines. -/
def isBlank (c : Char) : Bool :=
  let code := c.toNat
  (decide (9 ≤ code) && decide (code ≤ 13)) || (decide (28 ≤ code) && decide (code ≤ 32))
    || code == 0x85 || code == 0xa0 || code == 0x1680
    || (decide (0x2000 ≤ code) && decide (code ≤ 0x200a))
    || code == 0x2028 || code == 0x2029 || code == 0x202f || code == 0x205f || code == 0x3000

/-- Blanks only; the empty text counts. -/
def isBlankText (text : List Char) : Bool :=
  text.all isBlank

/-- The text from its first character that is not blank. -/
def trimLeft (text : List Char) : List Char :=
  text.dropWhile isBlank

/-- The text up to its last character that is not blank. -/
def trimRight (text : List Char) : List Char :=
  (text.reverse.dropWhile isBlank).reverse

/-- The text without the blanks at both ends. -/
def trim (text : List Char) : List Char :=
  trimRight (trimLeft text)

end TypeExport.Text
