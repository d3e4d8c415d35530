import TypeExport.Number.Numeral
import TypeExport.Text.LineEnd
import TypeExport.Yaml.Timestamp

/-!
# Tags

A tag says how a node of a document is to be read.  A plain scalar without a tag is read by its
text: a text in the form of a number is one, and so on.

* `Tag` — the tags.
* `Tag.ofName` — the tag of a name.
* `Tag.ofPlain` — the tag of a plain scalar that has none of its own.
-/

namespace TypeExport.Yaml

open Number (unsigned)
open Text (hexDigit? withoutLastBreak)

/-- How a node is to be read. -/
inductive Tag where
  | null
  | bool
  | int
  | float
  | text
  | timestamp
  | binary
  | sequence
  | mapping
  /-- A mapping of which only the keys matter. -/
  | set
  /-- A list of mappings with one entry each, which are read as pairs. -/
  | pairs
  /-- A key whose value is merged into the mapping around it. -/
  | merge
  /-- A key that stands for the value of the mapping around it. -/
  | default
  | other (name : String)
deriving DecidableEq, Repr

namespace Tag

/-- What the names of the standard tags begin with. -/
def standard : String := "tag:yaml.org,2002:"

/-- The tags with the ends of their names. -/
def named : List (String × Tag) :=
  [("null", .null), ("bool", .bool), ("int", .int), ("float", .float), ("str", .text),
    ("timestamp", .timestamp), ("binary", .binary), ("seq", .sequence), ("map", .mapping),
    ("set", .set), ("pairs", .pairs), ("omap", .pairs), ("merge", .merge), ("value", .default)]

/-- The tag of a name. -/
def ofName (name : String) : Tag :=
  ((named.find? fun entry => standard ++ entry.1 == name).map (·.2)).getD (.other name)

end Tag

/-! ### Forms of plain scalars -/

/-- A decimal digit or an underscore. -/
def isDigitOrGap (c : Char) : Bool :=
  isDigit c || c == '_'

/-- A part of a number in base sixty: one digit, or two of which the first is less than six. -/
def isSixtieth : List Char → Bool
  | [a] => isDigit a
  | [a, b] => decide ('0' ≤ a) && decide (a ≤ '5') && isDigit b
  | _ => false

/-- Some digits, the first no gap. -/
def isDigits : List Char → Bool
  | [] => false
  | c :: rest => isDigit c && rest.all isDigitOrGap

/-- The text of a boolean: a word in small letters, capitalised or in capitals. -/
def isBool (text : String) : Bool :=
  ["yes", "Yes", "YES", "no", "No", "NO", "true", "True", "TRUE", "false", "False", "FALSE",
    "on", "On", "ON", "off", "Off", "OFF"].contains text

/-- The text of null. -/
def isNull (text : String) : Bool :=
  ["", "~", "null", "Null", "NULL"].contains text

/-- The text of an integer behind its sign: binary, hexadecimal, octal, decimal or in base sixty. -/
def isUnsignedInt : List Char → Bool
  | '0' :: 'b' :: digits => !digits.isEmpty && digits.all fun c => c == '0' || c == '1' || c == '_'
  | '0' :: 'x' :: digits => !digits.isEmpty && digits.all fun c => (hexDigit? c).isSome || c == '_'
  | ['0'] => true
  | '0' :: digits => digits.all fun c => (decide ('0' ≤ c) && decide (c ≤ '7')) || c == '_'
  | text =>
    match text.splitOn ':' with
    | first :: others => isDigits first && others.all isSixtieth
    | [] => false

/-- The exponent of a float, which needs a sign. -/
def isExponent : List Char → Bool
  | [] => true
  | e :: sign :: digits =>
    (e == 'e' || e == 'E') && (sign == '+' || sign == '-') && !digits.isEmpty && digits.all isDigit
  | _ => false

/-- The fraction and exponent of a float behind its point. -/
def isFraction (text : List Char) : Bool :=
  isExponent (text.dropWhile isDigitOrGap)

/-- The text of a float behind its sign: it needs a point, and a digit next to it. -/
def isUnsignedFloat (text : List Char) : Bool :=
  let whole := text.takeWhile (· != '.')
  match text.drop whole.length with
  | [] => false
  | _ :: fraction =>
    match whole.splitOn ':' with
    | [digits] => isDigits digits && isFraction fraction
    | first :: sixtieths =>
      isDigits first && sixtieths.all isSixtieth && fraction.all isDigitOrGap
    | [] => false

/-- The text of a float.  Without a digit before its point it has no sign. -/
def isFloat (text : List Char) : Bool :=
  isUnsignedFloat (unsigned text)
    || (match text with
      | '.' :: digit :: rest => isDigit digit && isFraction rest
      | _ => false)
    || [".inf", ".Inf", ".INF"].contains (String.ofList (unsigned text))
    || [".nan", ".NaN", ".NAN"].contains (String.ofList text)

/-! ### Tags of plain scalars -/

/-- The tag of a line of text. -/
def Tag.ofLine (line : List Char) : Tag :=
  let text := String.ofList line
  if isBool text then .bool
  else if isFloat line then .float
  else if isUnsignedInt (unsigned line) then .int
  else if text == "<<" then .merge
  else if isNull text then .null
  else if isTimestamp line then .timestamp
  else if text == "=" then .default
  else .text

/-- The tag of a plain scalar that has none of its own.  A line break at the end of a text makes no
difference, but a line break alone is a text. -/
def Tag.ofPlain (text : String) : Tag :=
  if text = "\n" then .text else .ofLine (withoutLastBreak text.toList)

end TypeExport.Yaml
