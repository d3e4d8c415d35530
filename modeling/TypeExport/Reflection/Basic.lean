import TypeExport.Scalar

/-!
# Reflected types

What is known about a type before any code is generated from it: its name, its generic shape, the
interfaces it implements, its markers and its members.  Types refer to each other.  A type
that is declared on its own is an entry of a `TypeGraph` and is referred to by its place there, so
declared types may refer to themselves and to each other; types that are only built on the way
(arrays, constructed generics) are written out in the reference.

* `TypeFacts` — what is said about a type itself, apart from the types it is built from.
* `TypeRef` — a reference to a type.
* `Property`, `Field`, `Constant` — members.
* `TypeEntry`, `TypeGraph` — declared types.
-/

namespace TypeExport

/-- A marker on a type or member, with its positional arguments. -/
structure Marker where
  type : String
  arguments : List Scalar := []

/-- What is said about a type itself. -/
structure TypeFacts where
  /-- The simple name; the name of a generic type ends in the number of its parameters. -/
  name : String
  /-- The namespace, which a type parameter has none of. -/
  space? : Option String := none
  isEnum : Bool := false
  isArray : Bool := false
  isParameter : Bool := false
  /-- The full name of the generic type that a constructed type comes from. -/
  definition? : Option String := none
  /-- Full names of the implemented interfaces. -/
  interfaces : List String := []
  markers : List Marker := []
  /-- Names of the type parameters of a generic type. -/
  parameters : List String := []

/-- A namespace and a name with a dot between them; an absent or empty namespace adds nothing. -/
def qualified (space? : Option String) (name : String) : String :=
  match space? with
  | none => name
  | some space => if space = "" then name else space ++ "." ++ name

/-- The first marker of a type in a list. -/
def findMarker? (markers : List Marker) (type : String) : Option Marker :=
  markers.find? (·.type == type)

namespace TypeFacts

/-- The name with its namespace, without type arguments. -/
def fullName (facts : TypeFacts) : String :=
  qualified facts.space? facts.name

/-- The type is constructed from a generic one. -/
def isGeneric (facts : TypeFacts) : Bool :=
  facts.definition?.isSome

/-- The type lists the interface among those it implements. -/
def implements (facts : TypeFacts) (interface : String) : Bool :=
  facts.interfaces.contains interface

end TypeFacts

/-- What a constructed generic type takes from the generic type it is constructed from. -/
structure GenericHead where
  name : String
  space? : Option String
  definition : String
  interfaces : List String := []
  markers : List Marker := []

/-- A reference to a type. -/
inductive TypeRef where
  /-- The declared type at a place of the graph. -/
  | declared (place : Nat)
  /-- A type known by name only. -/
  | named (name : String) (space? : Option String)
  /-- An open type parameter. -/
  | parameter (name : String)
  /-- An array of elements of a type. -/
  | array (element : TypeRef)
  /-- A generic type applied to arguments. -/
  | generic (head : GenericHead) (arguments : List TypeRef)

namespace TypeRef

/-- The full name of the generic type that makes a value type nullable. -/
def nullableDefinition : String := "System.Nullable`1"

/-- A type of the namespace `System`. -/
def system (name : String) : TypeRef :=
  named name (some "System")

/-- The nullable form of a type. -/
def nullable (inner : TypeRef) : TypeRef :=
  generic { name := "Nullable`1", space? := some "System", definition := nullableDefinition } [inner]

end TypeRef

/-- A property of a type.  An explicit `isRequired?` decides whether the property is required;
without one its markers do. -/
structure Property where
  name : String
  type : TypeRef
  markers : List Marker := []
  isRequired? : Option Bool := none

/-- A member of an enumeration with its value. -/
structure Field where
  name : String
  value : Int
  markers : List Marker := []

/-- A string constant of a class. -/
structure Constant where
  name : String
  value : String
  markers : List Marker := []

/-- A property together with the type that declares it, where that is known. -/
structure OwnedProperty where
  owner? : Option TypeRef
  property : Property

/-- A declared type: its facts, the types it is built from, and its members. -/
structure TypeEntry where
  facts : TypeFacts
  element? : Option TypeRef := none
  arguments : List TypeRef := []
  properties : List Property := []
  fields : List Field := []
  constants : List Constant := []

/-- The declared types, in order of declaration. -/
structure TypeGraph where
  entries : List TypeEntry := []

namespace Property

/-- The full name of the marker that marks a property as required. -/
def requiredMarker : String := "System.ComponentModel.DataAnnotations.RequiredAttribute"

/-- The property is marked as required, explicitly or by a marker. -/
def isMarkedRequired (property : Property) : Bool :=
  match property.isRequired? with
  | some isRequired => isRequired
  | none => property.markers.any (·.type == requiredMarker)

end Property

namespace TypeGraph

/-- The entry that a reference leads to, if it leads to a declared type. -/
def entry? (graph : TypeGraph) : TypeRef → Option TypeEntry
  | .declared place => graph.entries[place]?
  | _ => none

/-- The properties of a type; only declared types have members. -/
def properties (graph : TypeGraph) (type : TypeRef) : List Property :=
  (graph.entry? type).elim [] (·.properties)

/-- The fields of a type. -/
def fields (graph : TypeGraph) (type : TypeRef) : List Field :=
  (graph.entry? type).elim [] (·.fields)

/-- The constants of a type. -/
def constants (graph : TypeGraph) (type : TypeRef) : List Constant :=
  (graph.entry? type).elim [] (·.constants)

/-- The properties of a type with the type as their owner. -/
def ownedProperties (graph : TypeGraph) (type : TypeRef) : List OwnedProperty :=
  (graph.properties type).map fun property => ⟨some type, property⟩

/-- The first property of a type with a name. -/
def property? (graph : TypeGraph) (type : TypeRef) (name : String) : Option Property :=
  (graph.properties type).find? (·.name == name)

end TypeGraph

end TypeExport
