import TypeExport.Name.Space
import TypeExport.Shape.Basic

/-!
# Classification

The rules that give a type its shape.  They are tried in a fixed order and the first that applies
decides.  The parts of a type are classified by the same rules; a type that is met again inside
its own parts has no shape.

* `TypeTree.classify` — the shape of a type.
* `classifyStep` — the rules for one type, given the outcomes for its parts.
* `ClassifyError` — why a type has no shape.
-/

namespace TypeExport

/-- Why a type has no shape. -/
inductive ClassifyError where
  | metadata (error : MetadataError)
  /-- The type with this full name is met again inside its own parts. -/
  | cycle (fullName : String)
deriving DecidableEq, Repr

namespace ClassifyError

/-- The text shown for the error. -/
def message : ClassifyError → String
  | metadata error => error.message
  | cycle fullName => "Type '" ++ fullName ++ "' refers to itself through its nested types"

end ClassifyError

/-- Full names of the types whose values are numbers. -/
def numberTypes : List String :=
  ["System.Byte", "System.SByte", "System.Int16", "System.UInt16", "System.Int32", "System.UInt32",
    "System.Int64", "System.UInt64", "System.Single", "System.Double", "System.Decimal"]

/-- Full names of the generic types that are dictionaries. -/
def dictionaryDefinitions : List String :=
  ["System.Collections.Generic.Dictionary`2", "System.Collections.Generic.IDictionary`2"]

/-- Full name of the interface that collections implement. -/
def collectionInterface : String := "System.Collections.Generic.ICollection`1"

namespace TypeFacts

/-- The type is a collection by its definition or by an interface. -/
def isCollection (facts : TypeFacts) : Bool :=
  facts.definition? == some collectionInterface || facts.implements collectionInterface

/-- The namespace, empty if there is none. -/
def space (facts : TypeFacts) : String :=
  facts.space?.getD ""

end TypeFacts

/-- The path of a type below a root namespace, ending in its name in camel case. -/
def modulePath (facts : TypeFacts) (root : String) : String :=
  "/".intercalate (Name.below facts.space root ++ [Name.camelCase facts.name])

/-- The name of a bag or a box. -/
def isTransferName (name : String) : Bool :=
  "Bag".toList.isSuffixOf name.toList || "Box".toList.isSuffixOf name.toList

/-- Read the metadata of a type. -/
def readTypeMetadata (settings : Settings) (tree : TypeTree) : Except ClassifyError Metadata :=
  (Metadata.read settings (.type tree)).mapError .metadata

/-- The shape of an enumeration.  One that has neither the shared namespace nor a domain has no
module to be imported from and is a number. -/
def classifyEnum (settings : Settings) (tree : TypeTree) : Except ClassifyError Shape := do
  let facts := tree.facts
  let metadata ← readTypeMetadata settings tree
  if Name.isUnder facts.space? settings.enumsSpace then
    return .globalEnum facts.name facts.space (modulePath facts settings.enumsSpace) metadata
  match metadata.domain? with
  | some domain =>
    let folder := Name.domainFolder domain
    return .domainEnum facts.name facts.space folder (folder ++ "/" ++ Name.camelCase facts.name)
      metadata
  | none => return .primitive .number facts.name

/-- The rules for a constructed generic type, given the outcomes for its arguments; `none` if no
rule applies. -/
def classifyGeneric? (settings : Settings) (facts : TypeFacts)
    (arguments : List (Except ClassifyError Shape)) : Option (Except ClassifyError Shape) :=
  let definition := facts.definition?.getD ""
  match dictionaryDefinitions.contains definition, arguments with
  | true, [key, value] => some do return .dictionary (← key) (← value)
  | _, _ =>
    match facts.isCollection, arguments with
    | true, element :: _ => some do return .collection (← element)
    | _, _ =>
      if definition == settings.boxDefinition then
        some do
          return .container (Name.withoutArity (Name.lastSegment definition)) (← arguments.mapM id)
      else none

/-- The rules behind those for generic types. -/
def classifyPlain (settings : Settings) (tree : TypeTree) : Except ClassifyError Shape := do
  let facts := tree.facts
  if facts.isEnum then
    classifyEnum settings tree
  else if facts.isParameter then
    return .parameter facts.name
  else if facts.implements settings.entityInterface then
    return .entity facts.name facts.space (← readTypeMetadata settings tree)
  else if Name.isUnder facts.space? settings.viewModelsSpace
      && isTransferName facts.name then
    return .viewModel facts.name facts.space (modulePath facts settings.viewModelsSpace)
      (← readTypeMetadata settings tree)
  else
    return .unsupported tree.displayName

/-- The nullable form of a value type: its only argument. -/
def nullableArgument? {α : Type} (facts : TypeFacts) (arguments : List α) : Option α :=
  match facts.definition? == some TypeRef.nullableDefinition, arguments with
  | true, [inner] => some inner
  | _, _ => none

/-- The rules for one type, given the outcomes for its element type and its arguments. -/
def classifyStep (settings : Settings) (tree : TypeTree)
    (element? : Option (Except ClassifyError Shape))
    (arguments : List (Except ClassifyError Shape)) : Except ClassifyError Shape :=
  let facts := tree.facts
  let fullName := facts.fullName
  if fullName == "System.Boolean" then .ok (.primitive .boolean facts.name)
  else if numberTypes.contains fullName then .ok (.primitive .number facts.name)
  else if fullName == "System.String" then .ok (.primitive .string facts.name)
  else
    match nullableArgument? facts arguments with
    | some inner => do return .nullable (← inner)
    | none =>
      if fullName == "System.Guid" then .ok (.primitive .identifier facts.name)
      else if fullName == "System.DateTime" || fullName == "System.DateTimeOffset" then
        .ok (.primitive .timestamp facts.name)
      else
        match facts.isArray, element? with
        | true, some element => do return .array (← element)
        | _, _ =>
          match facts.isGeneric, classifyGeneric? settings facts arguments with
          | true, some outcome => outcome
          | _, _ => classifyPlain settings tree

namespace TypeTree

mutual

/-- The shape of a type. -/
def classify (settings : Settings) : TypeTree → Except ClassifyError Shape
  | type facts arguments =>
    classifyStep settings (type facts arguments) none (classifyAll settings arguments)
  | withElement facts element arguments =>
    classifyStep settings (withElement facts element arguments) (some (classify settings element))
      (classifyAll settings arguments)
  | repeated facts _ => .error (.cycle facts.fullName)

/-- The outcomes for several types. -/
def classifyAll (settings : Settings) : List TypeTree → List (Except ClassifyError Shape)
  | [] => []
  | tree :: rest => classify settings tree :: classifyAll settings rest

end

end TypeTree

/-- The shape of the type that a reference leads to. -/
def TypeGraph.classify (graph : TypeGraph) (settings : Settings) (type : TypeRef) :
    Except ClassifyError Shape :=
  (graph.tree type).classify settings

end TypeExport
