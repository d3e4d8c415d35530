import TypeExport.Catalog.Error
import TypeExport.Yaml.Build

/-!
# Reading catalogs

A catalog document is a mapping with a list of types.  All types are declared before any of their
members is read, so a property may refer to any declared type, its own among them.

* `TypeEntry.declare` — the type that an entry declares, without members.
* `Members.read` — the members of a declared type.
* `Catalog.ofDocument`, `Catalog.read` — the catalog of a document.
-/

namespace TypeExport

open Yaml (Document Value Fields Expected)

/-- Read a part of a document. -/
abbrev SchemaRead := Except SchemaProblem

namespace Catalog

/-! ### Values under keys -/

/-- No key but those allowed. -/
def checkKeys (place : Place) (allowed : List String) (fields : Fields) : SchemaRead Unit :=
  match Yaml.unknownKey? allowed fields with
  | none => .ok ()
  | some key => .error (.unknownField place key)

/-- A value that is required to have a form. -/
def orWrong {α : Type} (place : Place) (key : String) (expected : Expected) (value? : Option α) :
    SchemaRead α :=
  match value? with
  | some value => .ok value
  | none => .error (.wrongValue place key expected)

/-- A text with at least one character under a key. -/
def requiredText (place : Place) (fields : Fields) (key : String) : SchemaRead String :=
  orWrong place key .nonEmptyString ((Value.find? fields key).bind (·.nonEmptyText?))

/-- A list of texts under a key. -/
def textList (document : Document) (place : Place) (fields : Fields) (key : String) :
    SchemaRead (List String) :=
  orWrong place key .listOfStrings (document.textList? (Value.find? fields key))

/-- A list of mappings under a key. -/
def mappingList (document : Document) (place : Place) (fields : Fields) (key : String) :
    SchemaRead (List Fields) :=
  orWrong place key .listOfMappings (document.mappingList? (Value.find? fields key))

/-! ### Markers -/

/-- A marker: its type alone, or a mapping with its type and arguments. -/
def readMarker (document : Document) (place : Place) (value : Value) : SchemaRead Marker :=
  match value.text?, document.fields? value with
  | some type, _ => .ok ⟨type, []⟩
  | none, none => .error (.wrongMarker place)
  | none, some fields => do
    checkKeys (.marker place) ["type", "arguments"] fields
    let type ← requiredText (.marker place) fields "type"
    match document.scalarList? (Value.find? fields "arguments") with
    | some arguments => return ⟨type, arguments⟩
    | none => .error (.wrongArguments place)

/-- The markers of a part. -/
def readMarkers (document : Document) (place : Place) (fields : Fields) :
    SchemaRead (List Marker) :=
  match Value.find? fields "attributes" with
  | none => .ok []
  | some value =>
    if value.isNull then .ok []
    else do
      (← orWrong place "attributes" .list (document.items? value)).mapM (readMarker document place)

/-! ### Types -/

/-- Keys of a type. -/
def entryKeys : List String :=
  ["name", "namespace", "enum", "type-parameters", "interfaces", "attributes", "properties",
    "fields", "constants"]

/-- An entry with its name: a mapping with no key but those of a type. -/
def readEntry (document : Document) (value : Value) : SchemaRead (String × Fields) :=
  match document.fields? value with
  | none => .error .entryNotMapping
  | some fields => do
    checkKeys .entry entryKeys fields
    return (← requiredText .entry fields "name", fields)

/-- The namespace of a type; an empty one counts as none. -/
def readSpace (place : Place) (fields : Fields) : SchemaRead (Option String) :=
  match Value.find? fields "namespace" with
  | none => .ok none
  | some value =>
    if value.isNull then .ok none
    else do return some (← orWrong place "namespace" .string value.text?) |>.filter (· != "")

/-- Whether a type is an enumeration. -/
def readIsEnum (place : Place) (fields : Fields) : SchemaRead Bool :=
  match Value.find? fields "enum" with
  | none => .ok false
  | some value => orWrong place "enum" .boolean value.boolean?

/-- The name of a type with the number of its type parameters. -/
def arityName (name : String) (parameters : List String) : String :=
  if parameters.isEmpty then name
  else name ++ Name.arityMark.toString ++ toString parameters.length

/-- The type that an entry declares, without its members. -/
def declare (document : Document) (name : String) (fields : Fields) : SchemaRead TypeEntry := do
  let place := Place.type name
  let parameters ← textList document place fields "type-parameters"
  let space? ← readSpace place fields
  let isEnum ← readIsEnum place fields
  let interfaces ← textList document place fields "interfaces"
  let markers ← readMarkers document place fields
  return {
    facts := {
      name := arityName name parameters
      space?
      isEnum
      interfaces
      markers
      parameters } }

/-! ### Members -/

/-- Read a part of a document in which type expressions stand. -/
abbrev MemberRead := Except (SchemaProblem ⊕ Expression.ExpressionError)

/-- A part without type expressions. -/
def plain {α : Type} (read : SchemaRead α) : MemberRead α :=
  read.mapError .inl

/-- The place of a member, which shows whatever stands as its name. -/
def memberPlace (document : Document) (typeName : String) (kind : MemberKind) (fields : Fields) :
    Place :=
  .named typeName kind (document.display ((Value.find? fields "name").getD .null))

/-- Whether a property is required, if the document says so. -/
def readIsRequired (place : Place) (fields : Fields) : SchemaRead (Option Bool) :=
  match Value.find? fields "required" with
  | none => .ok none
  | some value =>
    if value.isNull then .ok none
    else do return some (← orWrong place "required" .boolean value.boolean?)

/-- A property, whose type is an expression over the declared types. -/
def readProperty (document : Document) (scope : Expression.Scope) (typeName : String)
    (fields : Fields) : MemberRead Property := do
  plain (checkKeys (.member typeName .property) ["name", "type", "required", "attributes"] fields)
  let place := memberPlace document typeName .property fields
  let name ← plain (requiredText place fields "name")
  let expression ← plain (requiredText place fields "type")
  let isRequired? ← plain (readIsRequired place fields)
  let type ← (scope.parse expression).mapError .inr
  let markers ← plain (readMarkers document place fields)
  return { name, type, markers, isRequired? }

/-- Keys of a field or constant. -/
def valueKeys : List String := ["name", "value", "attributes"]

/-- A field of an enumeration. -/
def readField (document : Document) (typeName : String) (fields : Fields) : SchemaRead Field := do
  checkKeys (.member typeName .field) valueKeys fields
  let place := memberPlace document typeName .field fields
  let name ← requiredText place fields "name"
  let value ← orWrong place "value" .integer ((Value.find? fields "value").bind (·.integer?))
  let markers ← readMarkers document place fields
  return { name, value, markers }

/-- A string constant. -/
def readConstant (document : Document) (typeName : String) (fields : Fields) :
    SchemaRead Constant := do
  checkKeys (.member typeName .constant) valueKeys fields
  let place := memberPlace document typeName .constant fields
  let name ← requiredText place fields "name"
  let value ← orWrong place "value" .string ((Value.find? fields "value").bind (·.text?))
  let markers ← readMarkers document place fields
  return { name, value, markers }

/-- A declared type with its members. -/
def fillMembers (document : Document) (catalog : Catalog) (settings : Settings) (entry : TypeEntry)
    (name : String) (fields : Fields) : MemberRead TypeEntry := do
  let place := Place.type name
  let scope : Expression.Scope := { catalog, parameters := entry.facts.parameters, settings }
  let properties ←
    (← plain (mappingList document place fields "properties")).mapM
      (readProperty document scope name)
  let members ← plain do
    let enumFields ← (← mappingList document place fields "fields").mapM (readField document name)
    let constants ←
      (← mappingList document place fields "constants").mapM (readConstant document name)
    return (enumFields, constants)
  return { entry with properties, fields := members.1, constants := members.2 }

/-! ### Documents -/

/-- The entries of a document. -/
def documentEntries (document : Document) : SchemaRead (List (String × Fields)) :=
  match document.fields? document.root with
  | none => .error .notCatalog
  | some fields =>
    if fields.all fun field => Yaml.isAllowed ["types"] field.1 then
      match document.itemList? (Value.find? fields "types") with
      | none => .error .typesNotList
      | some items => items.mapM (readEntry document)
    else .error .notCatalog

/-- The catalog of a document; null is an empty one. -/
def ofDocument (settings : Settings) (document : Document) : MemberRead Catalog :=
  if document.root.isNull then .ok {}
  else do
    let raw ← plain (documentEntries document)
    let entries ← plain (raw.mapM fun (name, fields) => declare document name fields)
    let declared : Catalog := ⟨⟨entries⟩⟩
    let filled ← (entries.zip raw).mapM fun (entry, name, fields) =>
      fillMembers document declared settings entry name fields
    return ⟨⟨filled⟩⟩

/-- The catalog of a text named `label` in messages. -/
def read (settings : Settings) (label text : String) (standIn : Char := Text.standIn) :
    Except CatalogError Catalog :=
  match Document.read standIn text with
  | .error .malformed => .error (.invalidYaml label)
  | .error .noValue => .error (.noValue label)
  | .ok document =>
    (ofDocument settings document).mapError fun
      | .inl problem => .schema label problem
      | .inr error => .expression error

end Catalog

end TypeExport
