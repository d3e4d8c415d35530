import TypeExport.Text.CaseTable
import TypeExport.Text.LetterSet

/-!
# Case conversion

Conversion of characters and texts between upper and lower case.  One letter depends on its
neighbours: a capital sigma at the end of a word has a lower-case form of its own.

* `isUpper`, `isLower` — case of a character.
* `lowerChar`, `upperChar` — images of a character on its own.
* `lower`, `upper`, `fold`, `swap` — images of a text.
-/

namespace TypeExport.Text

/-- The character is an upper-case letter. -/
def isUpper (c : Char) : Bool :=
  if c.toNat < 128 then c.isUpper else LetterSet.upperCase.contains c.toNat

/-- The character is a lower-case letter. -/
def isLower (c : Char) : Bool :=
  if c.toNat < 128 then c.isLower else LetterSet.lowerCase.contains c.toNat

/-- The lower-case image of a character on its own. -/
def lowerChar (c : Char) : List Char :=
  if c.toNat < 128 then [c.toLower] else CaseMap.lower.image c

/-- The upper-case image of a character on its own. -/
def upperChar (c : Char) : List Char :=
  if c.toNat < 128 then [c.toUpper] else CaseMap.upper.image c

/-- The image of a character under case folding. -/
def foldChar (c : Char) : List Char :=
  if c.toNat < 128 then [c.toLower] else CaseMap.fold.image c

/-- The first character that is not passed over is cased. -/
def startsCased : List Char → Bool
  | [] => false
  | c :: rest =>
    if LetterSet.caseIgnorable.contains c.toNat then startsCased rest
    else LetterSet.casedContext.contains c.toNat

/-- The lower-case image of a character between `before`, read backwards, and `after`.  A capital
sigma that ends a word becomes the final form. -/
def lowerWithin (before : List Char) (c : Char) (after : List Char) : List Char :=
  if c = 'Σ' then
    if startsCased before && !startsCased after then ['ς'] else ['σ']
  else lowerChar c

/-- The lower-case image of the rest of a text behind `before`, read backwards. -/
def lowerAfter (before : List Char) : List Char → List Char
  | [] => []
  | c :: rest => lowerWithin before c rest ++ lowerAfter (c :: before) rest

/-- The lower-case image of a text. -/
def lower (text : List Char) : List Char :=
  lowerAfter [] text

/-- The upper-case image of a text. -/
def upper (text : List Char) : List Char :=
  text.flatMap upperChar

/-- The image of a text under case folding; texts that differ only in case have the same. -/
def fold (text : List Char) : List Char :=
  text.flatMap foldChar

/-- The rest of a text behind `before`, read backwards, with the case of each letter changed. -/
def swapAfter (before : List Char) : List Char → List Char
  | [] => []
  | c :: rest =>
    (if isUpper c then lowerWithin before c rest
      else if isLower c then upperChar c
      else [c]) ++ swapAfter (c :: before) rest

/-- The text with upper-case letters in lower case and lower-case letters in upper case. -/
def swap (text : List Char) : List Char :=
  swapAfter [] text

end TypeExport.Text
