import TypeExport.Yaml.Value

/-!
# Fields of a mapping

What a document may be asked to hold under a key.

* `Expected` — kinds of values, as messages name them.
* `Document.itemList?`, `Document.textList?`, `Document.mappingList?` — lists, where a value that
  counts as nothing is an empty list.
* `unknownKey?` — the first key, by the order of texts, that is not among those allowed.
-/

namespace TypeExport.Yaml

/-- What has to stand under a key. -/
inductive Expected where
  | nonEmptyString
  | string
  | boolean
  | integer
  | list
  | listOfStrings
  | listOfMappings
  | mapping
deriving DecidableEq, Repr

namespace Expected

/-- The words of a message for what is expected. -/
def words : Expected → String
  | nonEmptyString => "a non-empty string"
  | string => "a string"
  | boolean => "a boolean"
  | integer => "an integer"
  | list => "a list"
  | listOfStrings => "a list of strings"
  | listOfMappings => "a list of mappings"
  | mapping => "a YAML mapping"

end Expected

namespace Value

/-- A text with at least one character. -/
def nonEmptyText? (value : Value) : Option String :=
  value.text?.filter (· != "")

/-- An integer; a boolean is none. -/
def integer? : Value → Option Int
  | scalar (.int value) => some value
  | _ => none

/-- A boolean. -/
def boolean? : Value → Option Bool
  | scalar (.bool value) => some value
  | _ => none

end Value

namespace Document

/-- The items of a list; an absent value, or one that counts as nothing, is an empty list. -/
def itemList? (document : Document) (value? : Option Value) : Option (List Value) :=
  match value? with
  | none => some []
  | some value => if document.isVoid value then some [] else document.items? value

/-- A list of scalars. -/
def scalarList? (document : Document) (value? : Option Value) : Option (List Scalar) := do
  (← document.itemList? value?).mapM (·.scalar?)

/-- A list of texts. -/
def textList? (document : Document) (value? : Option Value) : Option (List String) := do
  (← document.itemList? value?).mapM (·.text?)

/-- A list of mappings. -/
def mappingList? (document : Document) (value? : Option Value) : Option (List Fields) := do
  (← document.itemList? value?).mapM document.fields?

end Document

/-- A key is one of the allowed texts. -/
def isAllowed (allowed : List String) (key : Scalar) : Bool :=
  match key.text? with
  | some text => allowed.contains text
  | none => false

/-- The least of some texts by code point. -/
def least? (texts : List String) : Option String :=
  texts.foldl
    (fun least? text =>
      match least? with
      | none => some text
      | some least => if text < least then some text else some least)
    none

/-- The display of the first key that is not allowed. -/
def unknownKey? (allowed : List String) (fields : Fields) : Option String :=
  least? ((fields.filter fun field => !isAllowed allowed field.1).map fun field => field.1.display)

end TypeExport.Yaml
