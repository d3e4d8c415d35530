import TypeExport.Scalar
import TypeExport.Yaml.Node
import TypeExport.Yaml.ScalarValue

/-!
# Keys of mappings

Two scalars are the same key if they are equal.  Booleans and numbers are equal if their exact
values are; what is no number equals only the very same value.

* `Key` — what keys are compared by.
* `Key.ofScalar` — the key of a scalar that a node stands for.
-/

namespace TypeExport.Yaml

/-- What keys are compared by. -/
inductive Key where
  | null
  | number (value : Rat)
  | infinity (negative : Bool)
  /-- What is no number: the shared value of that name, or the one that a node stands for. -/
  | notANumber (node? : Option NodeId)
  | text (value : String)
  | moment (value : Moment)
  | bytes (value : List UInt8)
deriving DecidableEq

/-- The key of a scalar, which a node with a text stands for. -/
def Key.ofScalar (id : NodeId) (source : String) : Scalar → Key
  | .null => .null
  | .bool value => .number (if value then 1 else 0)
  | .int value => .number value
  | .float value =>
    match Number.rational? value with
    | some value => .number value
    | none =>
      if value.isNaN then
        .notANumber (if String.ofList (floatBody source) = notANumberText then none else some id)
      else .infinity (value < 0)
  | .text value => .text value
  | .moment value => .moment value
  | .bytes value => .bytes value

end TypeExport.Yaml
