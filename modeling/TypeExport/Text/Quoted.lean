import TypeExport.Text.Printable

/-!
# Quoted text

Two ways to write a text between quotes so that it can be read back, and the like for bytes.

* `literal` — between single quotes where possible, with every character escaped that cannot be
  shown.
* `bytesLiteral` — the same for bytes.
* `doubleQuoted` — between double quotes, with quotes, backslashes and control characters escaped
  and all else as it is.
* `hexadecimal` — digits of a number, padded with zeros.
-/

namespace TypeExport.Text

/-- Hexadecimal digits in lower case, at least `width` of them. -/
def hexadecimal (width n : Nat) : List Char :=
  let digits := Nat.toDigits 16 n
  List.replicate (width - digits.length) '0' ++ digits

/-- A character of a literal whose quote is `quote`. -/
def literalChar (quote c : Char) : List Char :=
  if c = quote || c = '\\' then ['\\', c]
  else if c = '\n' then ['\\', 'n']
  else if c = '\r' then ['\\', 'r']
  else if c = '\t' then ['\\', 't']
  else if isPrintable c then [c]
  else if c.toNat < 0x100 then '\\' :: 'x' :: hexadecimal 2 c.toNat
  else if c.toNat < 0x10000 then '\\' :: 'u' :: hexadecimal 4 c.toNat
  else '\\' :: 'U' :: hexadecimal 8 c.toNat

/-- The quote of a literal: single, unless the text has single quotes and no double ones. -/
def literalQuote (text : List Char) : Char :=
  if text.contains '\'' && !text.contains '"' then '"' else '\''

/-- A text as a literal, for messages. -/
def literal (text : String) : String :=
  let chars := text.toList
  let quote := literalQuote chars
  String.ofList ([quote] ++ chars.flatMap (literalChar quote) ++ [quote])

/-- A byte of a literal whose quote is `quote`. -/
def byteLiteral (quote : Char) (byte : UInt8) : List Char :=
  let c := Char.ofNat byte.toNat
  if c = quote || c = '\\' then ['\\', c]
  else if c = '\n' then ['\\', 'n']
  else if c = '\r' then ['\\', 'r']
  else if c = '\t' then ['\\', 't']
  else if 0x20 ≤ byte && byte < 0x7f then [c]
  else '\\' :: 'x' :: hexadecimal 2 byte.toNat

/-- Bytes as a literal, for messages; a letter tells it from a text. -/
def bytesLiteral (bytes : List UInt8) : String :=
  let quote := literalQuote (bytes.map fun byte => Char.ofNat byte.toNat)
  .ofList ('b' :: quote :: bytes.flatMap (byteLiteral quote) ++ [quote])

/-- A character between double quotes. -/
def doubleQuotedChar (c : Char) : List Char :=
  if c = '"' then ['\\', '"']
  else if c = '\\' then ['\\', '\\']
  else if c = '\n' then ['\\', 'n']
  else if c = '\r' then ['\\', 'r']
  else if c = '\t' then ['\\', 't']
  else if c = '\x08' then ['\\', 'b']
  else if c = '\x0c' then ['\\', 'f']
  else if c.toNat < 0x20 then '\\' :: 'u' :: hexadecimal 4 c.toNat
  else [c]

/-- A text between double quotes, for generated code. -/
def doubleQuoted (text : String) : String :=
  String.ofList (['"'] ++ text.toList.flatMap doubleQuotedChar ++ ['"'])

end TypeExport.Text
