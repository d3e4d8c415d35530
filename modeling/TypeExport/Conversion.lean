import TypeExport.Shape.Classify

/-!
# Conversion of properties

A property of an entity is copied into its bag and back: as it is, through a reference, or
through a list of references.  Properties for which none of these works are left out of bags.

* `isAssignable` — values of the type are copied as they are.
* `isSupported` — a property of the type can stand in a bag.
* `Conversion`, `OwnedProperty.conversion` — how a property is copied.
* `Conversion.toBag?`, `Conversion.fromBag?` — the code that copies it.
-/

namespace TypeExport

/-- Full names of the types whose values are copied as they are. -/
def assignmentTypes : List String :=
  ["System.Boolean", "System.Int32", "System.Int64", "System.Decimal", "System.Double",
    "System.String", "System.Guid", "System.DateTime", "System.DateTimeOffset"]

/-- Full names of the value types among them, which may be nullable. -/
def nullableAssignmentTypes : List String :=
  assignmentTypes.filter (· != "System.String")

namespace TypeTree

/-- Values of the type are copied as they are. -/
def isAssignable (tree : TypeTree) : Bool :=
  match nullableArgument? tree.facts tree.arguments with
  | some inner => nullableAssignmentTypes.contains inner.facts.fullName
  | none => !tree.facts.isGeneric && assignmentTypes.contains tree.facts.fullName

/-- The type is a nullable form. -/
def isNullable (tree : TypeTree) : Bool :=
  (nullableArgument? tree.facts tree.arguments).isSome

/-- A property of the type can stand in a bag, given the answers for the arguments.  A collection
of one argument asks that argument; any other type is assignable, an enumeration that has a module
to be imported from, or an entity. -/
def supportedStep (settings : Settings) (tree : TypeTree) (arguments : List Bool) : Bool :=
  let facts := tree.facts
  match facts.isGeneric && facts.isCollection, arguments with
  | true, [argument] => argument
  | _, _ =>
    if tree.isAssignable then true
    else if facts.isEnum then
      Name.isUnder facts.space? settings.enumsSpace
        || (findMarker? facts.markers settings.domainMarker).isSome
    else facts.implements settings.entityInterface

mutual

/-- A property of the type can stand in a bag. -/
def isSupported (settings : Settings) : TypeTree → Bool
  | type facts arguments =>
    supportedStep settings (type facts arguments) (areSupported settings arguments)
  | withElement facts element arguments =>
    supportedStep settings (withElement facts element arguments) (areSupported settings arguments)
  | repeated _ _ => false

/-- The answers for several types. -/
def areSupported (settings : Settings) : List TypeTree → List Bool
  | [] => []
  | tree :: rest => isSupported settings tree :: areSupported settings rest

end

end TypeTree

/-- How a value moves between an entity and its bag. -/
inductive Strategy where
  | assignment
  | reference
  | referenceList
  | unsupported
deriving DecidableEq, Repr

/-- The conversion of one property. -/
structure Conversion where
  propertyName : String
  strategy : Strategy
  /-- The display name of the property's type. -/
  typeName : String
  /-- The id read back from the bag may be absent but is needed as a value. -/
  unwraps : Bool := false
deriving DecidableEq, Repr

namespace OwnedProperty

/-- The declaring type has a property for the id of the entity, which is always present. -/
def hasRequiredId (graph : TypeGraph) (owned : OwnedProperty) : Bool :=
  match owned.owner? with
  | none => false
  | some owner =>
    match graph.property? owner (owned.property.name ++ "Id") with
    | none => false
    | some sibling =>
      let facts := graph.facts sibling.type
      !facts.isGeneric && facts.fullName == "System.Int32"

/-- How the property is copied into a bag and back. -/
def conversion (graph : TypeGraph) (settings : Settings) (owned : OwnedProperty) :
    Except ClassifyError Conversion := do
  let tree := graph.tree owned.property.type
  let name := owned.property.name
  let typeName := tree.displayName
  if tree.isAssignable then return ⟨name, .assignment, typeName, false⟩
  match ← tree.classify settings with
  | .entity _ _ _ => return ⟨name, .reference, typeName, owned.hasRequiredId graph⟩
  | .collection (.entity _ _ _) =>
    if tree.arguments.length = 1 then return ⟨name, .referenceList, typeName, false⟩
    else return ⟨name, .unsupported, typeName, false⟩
  | _ => return ⟨name, .unsupported, typeName, false⟩

end OwnedProperty

namespace Conversion

/-- The code that reads the property for its bag, if there is any. -/
def toBag? (conversion : Conversion) : Option String :=
  match conversion.strategy with
  | .assignment => some conversion.propertyName
  | .reference => some (conversion.propertyName ++ ".ToListItemBag()")
  | .referenceList => some (conversion.propertyName ++ ".ToListItemBagList()")
  | .unsupported => none

/-- The code that reads the value of the bag for the property, if there is any; a list of
references cannot be read back. -/
def fromBag? (conversion : Conversion) : Option String :=
  match conversion.strategy with
  | .assignment => some conversion.propertyName
  | .reference =>
    some (conversion.propertyName ++ ".GetEntityId<" ++ conversion.typeName ++ ">( RockContext )"
      ++ (if conversion.unwraps then ".Value" else ""))
  | .referenceList => none
  | .unsupported => none

/-- The comment that stands where there is no code. -/
def missingCode (conversion : Conversion) : String :=
  "/* Unknown property type '" ++ conversion.typeName ++ "' for conversion to bag. */"

end Conversion

end TypeExport
