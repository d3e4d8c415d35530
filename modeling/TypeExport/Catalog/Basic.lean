import TypeExport.Name.Casing
import TypeExport.Name.Space
import TypeExport.Reflection.Tree

/-!
# Catalogs

A catalog declares types.  A declared type is found by its full name or, if that is unique, by its
simple name; either may leave out the number of type parameters.

* `Catalog` — the declared types.
* `Catalog.find?` — the place of a type by name.
* `Catalog.enums`, `Catalog.classes`, `Catalog.constantClasses` — places by kind of type.
-/

namespace TypeExport

/-- Declared types in order of declaration. -/
structure Catalog where
  graph : TypeGraph := {}

namespace Catalog

/-- The places of the declared types. -/
def places (catalog : Catalog) : List Nat :=
  List.range catalog.graph.entries.length

/-- The name is the full name of the type. -/
def isFullName (name : String) (facts : TypeFacts) : Bool :=
  name == facts.fullName || name == Name.withoutArity facts.fullName

/-- The name is the simple name of the type. -/
def isSimpleName (name : String) (facts : TypeFacts) : Bool :=
  name == facts.name || name == Name.withoutArity facts.name

/-- The place of the first type with a full name, or else of the only type with a simple name. -/
def find? (catalog : Catalog) (name : String) : Option Nat :=
  match catalog.places.find? fun place => isFullName name (catalog.graph.factsAt place) with
  | some place => some place
  | none =>
    match catalog.places.filter fun place => isSimpleName name (catalog.graph.factsAt place) with
    | [place] => some place
    | _ => none

/-- The places of the types whose entries have a property. -/
def placesWhere (catalog : Catalog) (holds : TypeEntry → Bool) : List Nat :=
  catalog.places.filter fun place => catalog.graph.entries[place]?.elim false holds

/-- The enumerations. -/
def enums (catalog : Catalog) : List Nat :=
  catalog.placesWhere (·.facts.isEnum)

/-- The types that are no enumerations. -/
def classes (catalog : Catalog) : List Nat :=
  catalog.placesWhere (!·.facts.isEnum)

/-- The entry declares a table of constants. -/
def hasConstants (entry : TypeEntry) : Bool :=
  !entry.facts.isEnum && !entry.constants.isEmpty

/-- The classes that declare string constants. -/
def constantClasses (catalog : Catalog) : List Nat :=
  catalog.placesWhere hasConstants

end Catalog

end TypeExport
