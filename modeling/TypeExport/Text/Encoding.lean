/-!
# Texts that can be stored

A text may hold surrogates: code points that mean something only in pairs, and only where texts are
kept in units of sixteen bits.  They are no characters, and no file can hold them.  In the texts of
this library a stand-in takes the place of each: a character that is chosen so that it occurs in no
other text.

* `standIn` — the stand-in, unless another one is chosen.
* `ofCode?` — the character of a code point.
* `isEncodable` — a text that a file can hold.
* `freeStandIn` — a stand-in for given texts.
-/

namespace TypeExport.Text

/-- A code point that is half of a pair. -/
def isSurrogate (code : Nat) : Bool :=
  decide (0xd800 ≤ code) && decide (code ≤ 0xdfff)

/-- The stand-in for surrogates, unless another one is chosen: a code point that is set aside and
never a character. -/
def standIn : Char := '\uffff'

/-- The character of a code point, if there is such a code point. -/
def ofCode? (standIn : Char) (code : Nat) : Option Char :=
  if isSurrogate code then some standIn
  else if h : code.isValidChar then some (Char.ofNatAux code h)
  else none

/-- A text without surrogates can be stored. -/
def isEncodable (standIn : Char) (text : String) : Bool :=
  !text.toList.contains standIn

/-! ### Choosing a stand-in -/

/-- The code points that are set aside and never characters. -/
def nonCharacters : List Nat :=
  (List.range 17).reverse.flatMap fun plane => [plane * 0x10000 + 0xffff, plane * 0x10000 + 0xfffe]

/-- A text may mean a code point: it has its character or its number, in either notation.  Whether
the number belongs to an escape does not matter here. -/
def mentions (text : String) (code : Nat) : Bool :=
  let digits (base : Nat) := String.ofList (Nat.toDigits base code)
  text.toList.contains (.ofNat code) || text.contains (digits 10)
    || text.toLower.contains (digits 16)

/-- A stand-in that none of the texts means. -/
def freeStandIn (texts : List String) : Char :=
  ((nonCharacters.find? fun code => !texts.any (mentions · code)).map Char.ofNat).getD standIn

end TypeExport.Text
