import TypeExport.Catalog.Error

/-!
# Changing catalogs

Declared types may be given further members, markers and interfaces.  Whatever refers to a
declared type refers to its place and so to the changed type.

* `Catalog.change` — change a declared type, found by name.
* `Catalog.addProperty`, `Catalog.addField`, `Catalog.addMarker`, `Catalog.addInterface`.
-/

namespace TypeExport.Catalog

/-- Change the type at a place. -/
def changeAt (catalog : Catalog) (place : Nat) (change : TypeEntry → TypeEntry) : Catalog :=
  ⟨⟨catalog.graph.entries.modify place change⟩⟩

/-- Change the declared type of a name. -/
def change (catalog : Catalog) (name : String) (change : TypeEntry → TypeEntry) :
    Except CatalogError Catalog := do
  return catalog.changeAt (← catalog.get name) change

/-- The names that may stand in the expressions of a declared type. -/
def scopeAt (catalog : Catalog) (settings : Settings) (place : Nat) : Expression.Scope where
  catalog := catalog
  parameters := (catalog.graph.factsAt place).parameters
  settings := settings

/-- Add a property, whose type is an expression, behind the others of a type. -/
def addProperty (catalog : Catalog) (settings : Settings) (typeName name expression : String)
    (markers : List Marker) (isRequired? : Option Bool) : Except CatalogError Catalog := do
  let place ← catalog.get typeName
  let type ← ((catalog.scopeAt settings place).parse expression).mapError .expression
  return catalog.changeAt place fun entry =>
    { entry with properties := entry.properties ++ [{ name, type, markers, isRequired? }] }

/-- Add a field behind the others of a type. -/
def addField (catalog : Catalog) (typeName : String) (field : Field) :
    Except CatalogError Catalog :=
  catalog.change typeName fun entry => { entry with fields := entry.fields ++ [field] }

/-- Change the facts of a declared type. -/
def changeFacts (catalog : Catalog) (typeName : String) (change : TypeFacts → TypeFacts) :
    Except CatalogError Catalog :=
  catalog.change typeName fun entry => { entry with facts := change entry.facts }

/-- Add a marker behind the others of a type. -/
def addMarker (catalog : Catalog) (typeName : String) (marker : Marker) :
    Except CatalogError Catalog :=
  catalog.changeFacts typeName fun facts => { facts with markers := facts.markers ++ [marker] }

/-- Add an interface behind the others of a type. -/
def addInterface (catalog : Catalog) (typeName interface : String) : Except CatalogError Catalog :=
  catalog.changeFacts typeName fun facts =>
    { facts with interfaces := facts.interfaces ++ [interface] }

end TypeExport.Catalog
