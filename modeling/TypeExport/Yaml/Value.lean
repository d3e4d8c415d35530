import TypeExport.Scalar

/-!
# Values of a document

What a document means: scalars, lists and mappings, and two more kinds of collections that no part
of this library asks for: pairs and sets.  A collection may stand in several places of its document,
even inside itself, so the collections of a document are numbered, and a value that is one refers to
its number.  A mapping keeps its fields in order.

* `Value`, `Collection`, `Document` — the values, and the collections they refer to.
* `Document.display` — the text of a value in messages.
* `Document.without` — a document in which a mapping lacks a field.
-/

namespace TypeExport.Yaml

/-- A value of a document. -/
inductive Value where
  | scalar (value : Scalar)
  /-- The collection of a number. -/
  | collection (number : Nat)

/-- The fields of a mapping in order. -/
abbrev Fields := List (Scalar × Value)

/-- What a collection holds. -/
inductive Collection where
  | list (items : List Value)
  | mapping (fields : Fields)
  | pair (first second : Value)
  | set (items : List Scalar)

/-- A value with the collections that it may refer to, in the order of their numbers. -/
structure Document where
  root : Value
  collections : Array Collection := #[]

namespace Value

/-- The null value. -/
def null : Value := scalar .null

/-- The scalar that a value is. -/
def scalar? : Value → Option Scalar
  | scalar value => some value
  | collection _ => none

/-- The text that a value is. -/
def text? (value : Value) : Option String :=
  value.scalar?.bind (·.text?)

/-- The value is null. -/
def isNull : Value → Bool
  | scalar .null => true
  | _ => false

/-- The value of a field whose key is a text. -/
def find? (fields : Fields) (key : String) : Option Value :=
  (fields.find? fun field => field.1.text? == some key).map (·.2)

end Value

namespace Document

/-- The collection that a value refers to. -/
def collection? (document : Document) : Value → Option Collection
  | .scalar _ => none
  | .collection number => document.collections[number]?

/-- The items of a list. -/
def items? (document : Document) (value : Value) : Option (List Value) :=
  match document.collection? value with
  | some (.list items) => some items
  | _ => none

/-- The fields of a mapping. -/
def fields? (document : Document) (value : Value) : Option Fields :=
  match document.collection? value with
  | some (.mapping fields) => some fields
  | _ => none

/-- Values that count as nothing: null, false, zero, and empty texts and collections. -/
def isVoid (document : Document) (value : Value) : Bool :=
  match value, document.collection? value with
  | .scalar value, _ => value.isVoid
  | _, some (.list items) => items.isEmpty
  | _, some (.mapping fields) => fields.isEmpty
  | _, some (.set items) => items.isEmpty
  | _, _ => false

/-- The document in which a mapping lacks the field of a key. -/
def without (document : Document) (key : String) (value : Value) : Document :=
  match value, document.fields? value with
  | .collection number, some fields =>
    let others := fields.filter fun field => field.1.text? != some key
    { document with collections := document.collections.setIfInBounds number (.mapping others) }
  | _, _ => document

/-! ### Text of values -/

/-- A collection around itself is cut off; sets hold no collections. -/
def cutLiteral : Collection → String
  | .list _ => "[...]"
  | .mapping _ => "\x7b...\x7d"
  | .pair _ _ => "(...)"
  | .set _ => ""

/-- A set, whose items are shown in the order of the document. -/
def setLiteral (items : List Scalar) : String :=
  if items.isEmpty then "set()"
  else "\x7b" ++ ", ".intercalate (items.map Scalar.literal) ++ "\x7d"

/-- A value inside the collections `around`, at most `fuel` levels deep. -/
def literalWithin (document : Document) : Nat → List Nat → Value → String
  | _, _, .scalar value => value.literal
  | 0, _, .collection _ => ""
  | fuel + 1, around, .collection number =>
    match document.collections[number]? with
    | none => ""
    | some collection =>
      -- A collection inside itself is cut short.
      if around.contains number then cutLiteral collection
      else
        let literal := literalWithin document fuel (number :: around)
        match collection with
        | .list items => "[" ++ ", ".intercalate (items.map literal) ++ "]"
        | .mapping fields =>
          let entries := fields.map fun field => field.1.literal ++ ": " ++ literal field.2
          "\x7b" ++ ", ".intercalate entries ++ "\x7d"
        | .pair first second => tupleLiteral [literal first, literal second]
        | .set items => setLiteral items

/-- A value on its own.  A collection is inside fewer others than there are. -/
def display (document : Document) : Value → String
  | .scalar value => value.display
  | value => document.literalWithin (document.collections.size + 1) [] value

end Document

end TypeExport.Yaml
