import TypeExport.Number.Nearest
import TypeExport.Text.Blank
import TypeExport.Text.Digit

/-!
# Numerals

Numbers in the forms in which they may be written: with blanks around them, with a sign, in digits
of any script.  Whole numbers have a base, whose mark may stand in front of the digits.  Other
numbers are decimal, with a point, an exponent, or both, or they are named.

* `unsigned` — a text without its sign.
* `int?` — the whole number that a text denotes in a base.
* `float?` — the number nearest to the one that a text denotes.
* `isNegativeNumeral` — a negative decimal without exponent.
-/

namespace TypeExport.Number

open Text (isBlank decimalDigit? hexDigit? numberBy?)

/-- A blank that may stand around a numeral; the information separators may not. -/
def isMargin (c : Char) : Bool :=
  isBlank c && (decide (c.toNat < 28) || decide (31 < c.toNat))

/-- A text without the blanks around it. -/
def withoutMargins (text : List Char) : List Char :=
  ((text.dropWhile isMargin).reverse.dropWhile isMargin).reverse

/-- A text without the sign in front of it. -/
def unsigned : List Char → List Char
  | '+' :: rest => rest
  | '-' :: rest => rest
  | text => text

/-- A text starts with a minus sign. -/
def isNegative (text : List Char) : Bool :=
  text.head? == some '-'

/-- Value of a digit of any base up to sixteen; decimal digits may be of any script. -/
def digit? (c : Char) : Option Nat :=
  (decimalDigit? c).or (hexDigit? c)

/-- A decimal digit of any script. -/
def isDecimal (c : Char) : Bool :=
  (decimalDigit? c).isSome

/-! ### Whole numbers -/

/-- Digits without the mark of their base. -/
def withoutMark : Nat → List Char → List Char
  | 2, '0' :: 'b' :: digits | 2, '0' :: 'B' :: digits => digits
  | 8, '0' :: 'o' :: digits | 8, '0' :: 'O' :: digits => digits
  | 16, '0' :: 'x' :: digits | 16, '0' :: 'X' :: digits => digits
  | _, digits => digits

/-- The whole number that a text denotes in a base. -/
def int? (base : Nat) (text : List Char) : Option Int :=
  let text := withoutMargins text
  (numberBy? digit? base (withoutMark base (unsigned text))).map fun (n : Nat) =>
    if isNegative text then -(n : Int) else n

/-! ### Decimals -/

/-- The exponent at the end of a decimal. -/
def exponent? : List Char → Option Int
  | [] => some 0
  | e :: text =>
    if e == 'e' || e == 'E' then
      (numberBy? decimalDigit? 10 (unsigned text)).map fun (n : Nat) =>
        if isNegative text then -(n : Int) else n
    else none

/-- The number nearest to a decimal behind its sign. -/
def decimal? (negative : Bool) (text : List Char) : Option Float := do
  let whole := text.takeWhile isDecimal
  let rest := text.drop whole.length
  let fraction :=
    match rest with
    | '.' :: rest => rest.takeWhile isDecimal
    | _ => []
  let rest :=
    match rest with
    | '.' :: rest => rest.drop fraction.length
    | rest => rest
  let exponent ← exponent? rest
  let digits ← numberBy? decimalDigit? 10 (whole ++ fraction)
  return ofDecimal negative digits (exponent - fraction.length)

/-- The number nearest to the one that a text denotes; infinity and the value that is no number
have names, whatever their case. -/
def float? (text : List Char) : Option Float :=
  let text := withoutMargins text
  let body := unsigned text
  let word := String.ofList (body.map Char.toLower)
  if word == "inf" || word == "infinity" then some (infinity (isNegative text))
  else if word == "nan" then some notANumber
  else decimal? (isNegative text) body

/-- A text is a minus sign with decimal digits behind it, which may have a point among them but not
at their end. -/
def isNegativeNumeral : List Char → Bool
  | '-' :: text =>
    let whole := text.takeWhile isDecimal
    match text.drop whole.length with
    | [] => !whole.isEmpty
    | '.' :: fraction => !fraction.isEmpty && fraction.all isDecimal
    | _ => false
  | _ => false

end TypeExport.Number
