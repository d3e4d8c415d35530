import TypeExport.Scalar
import TypeExport.Yaml.Binary
import TypeExport.Yaml.Cursor
import TypeExport.Yaml.Tag

/-!
# Values of scalars

What a text means under a tag.  A tag may be given to any text, so each tag reads more forms than
those by which a plain scalar is recognised; underscores between the digits of numbers are left
out, and the parts of a number in base sixty are set apart by colons.

* `int?`, `float?`, `bool?` — what a text means under each of these tags.
* `Scalar.ofText` — the value of a text under a tag.
-/

namespace TypeExport.Yaml

open Number (unsigned isNegative)

/-- A text without underscores. -/
def withoutGaps (text : List Char) : List Char :=
  text.filter (· != '_')

/-! ### Integers -/

/-- The integer that parts in base sixty denote. -/
def sixtiethsInt (parts : List Int) : Int :=
  parts.foldl (fun n part => n * 60 + part) 0

/-- The integer that a text denotes behind its sign: binary, hexadecimal or octal behind a zero, in
base sixty, or decimal. -/
def unsignedInt? : List Char → Option Int
  | '0' :: 'b' :: digits => Number.int? 2 digits
  | '0' :: 'x' :: digits => Number.int? 16 digits
  | '0' :: digits => Number.int? 8 ('0' :: digits)
  | text => ((text.splitOn ':').mapM (Number.int? 10)).map sixtiethsInt

/-- The integer that a text denotes. -/
def int? (text : String) : Option Int :=
  let digits := withoutGaps text.toList
  (unsignedInt? (unsigned digits)).map fun n => if isNegative digits then -n else n

/-! ### Floats -/

/-- The float that parts in base sixty denote, the last part first; `weight` is that of the first
part, and `value` what is already counted. -/
def sixtiethsFloat : List Float → Nat → Float → Float
  | [], _, value => value
  | part :: rest, weight, value =>
    sixtiethsFloat rest (weight * 60) (value + part * Number.ofNat weight)

/-- The text of infinity behind its sign. -/
def infinityText : String := ".inf"

/-- The text of the value that is no number behind its sign. -/
def notANumberText : String := ".nan"

/-- The text of a float behind its sign, in small letters. -/
def floatBody (text : String) : List Char :=
  unsigned ((withoutGaps text.toList).map Char.toLower)

/-- The float that a text denotes behind its sign. -/
def unsignedFloat? (body : List Char) : Option Float :=
  if String.ofList body = infinityText then some (Number.infinity false)
  else if String.ofList body = notANumberText then some Number.notANumber
  else if body.contains ':' then
    ((body.splitOn ':').mapM Number.float?).map fun parts => sixtiethsFloat parts.reverse 1 0.0
  else Number.float? body

/-- The float that a text denotes. -/
def float? (text : String) : Option Float :=
  (unsignedFloat? (floatBody text)).map fun x =>
    if isNegative (withoutGaps text.toList) then -x else x

/-! ### Scalars -/

/-- The boolean that a word denotes, whatever its case. -/
def bool? (text : String) : Option Bool :=
  let word := String.ofList (text.toList.map Char.toLower)
  if ["yes", "true", "on"].contains word then some true
  else if ["no", "false", "off"].contains word then some false
  else none

end TypeExport.Yaml

namespace TypeExport

/-- The value of a text under a tag.  A text may ask for a value that does not exist; other tags
than these have no scalars. -/
def Scalar.ofText (tag : Yaml.Tag) (text : String) : Except Yaml.Fault Scalar :=
  match tag with
  | .null => .ok .null
  | .bool => Yaml.orFault .noValue ((Yaml.bool? text).map .bool)
  | .int => Yaml.orFault .noValue ((Yaml.int? text).map .int)
  | .float => Yaml.orFault .noValue ((Yaml.float? text).map .float)
  | .text => .ok (.text text)
  | .timestamp =>
    Yaml.orFault .noValue ((Yaml.timestamp? (Text.withoutLastBreak text.toList)).map .moment)
  | .binary => Yaml.orFault .malformed ((Yaml.binary? text).map .bytes)
  | _ => .error .malformed

end TypeExport
