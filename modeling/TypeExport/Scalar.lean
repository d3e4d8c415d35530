import TypeExport.Moment
import TypeExport.Text.Quoted

/-!
# Scalar values

The values that stand in a document where no list or mapping does, and that markers take as
arguments.

* `Scalar` — the values.
* `Scalar.display` — the plain text of a value in a message.
* `Scalar.literal` — the same with texts quoted, as it stands inside a larger value.
-/

namespace TypeExport

/-- A value without parts. -/
inductive Scalar where
  | null
  | bool (value : Bool)
  | int (value : Int)
  | float (value : Float)
  | text (value : String)
  | moment (value : Moment)
  | bytes (value : List UInt8)

namespace Scalar

/-- The text that a scalar is. -/
def text? : Scalar → Option String
  | text value => some value
  | _ => none

/-- Scalars that count as nothing: null, false, zero, and no text or bytes at all. -/
def isVoid : Scalar → Bool
  | null => true
  | bool value => !value
  | int value => value == 0
  | float value => value == 0
  | text value => value == ""
  | moment _ => false
  | bytes value => value.isEmpty

/-- Numbers show the fewest digits that identify them: with a point from `1e-4` up to `1e16`, and
with an exponent of at least two digits elsewhere. -/
def floatFormat : Number.FloatFormat where
  leastPoint := -3
  greatestPoint := 16
  exponentDigits := 2

/-- A value inside a larger one. -/
def literal : Scalar → String
  | null => "None"
  | bool true => "True"
  | bool false => "False"
  | int value => toString value
  | float value => floatFormat.render value
  | text value => Text.literal value
  | moment value => value.literal
  | bytes value => Text.bytesLiteral value

/-- A value on its own. -/
def display : Scalar → String
  | text value => value
  | moment value => value.render " "
  | value => value.literal

end Scalar

/-- The values of a list in parentheses; a single value is followed by a comma. -/
def tupleLiteral : List String → String
  | [item] => "(" ++ item ++ ",)"
  | items => "(" ++ ", ".intercalate items ++ ")"

end TypeExport
