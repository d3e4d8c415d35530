import TypeExport.Declaration.CSharp
import TypeExport.Documentation.Basic
import TypeExport.Documentation.Comment
import TypeExport.Name.Order
import TypeExport.Shape.Classify

/-!
# View models

A class as a TypeScript object type, its properties sorted by name.  Several classes form one
unit, which does not import what it declares.

* `viewModel`, `viewModels` — the declarations of one class and of a unit.
* `declaredReferences` — the types of the unit inside the type of a property.
* `GenerateError` — why nothing was generated.
-/

namespace TypeExport

/-- Why nothing was generated. -/
inductive GenerateError where
  | classify (error : ClassifyError)
  | unsupported (error : UnsupportedType)
deriving DecidableEq, Repr

namespace GenerateError

/-- The text shown for the error. -/
def message : GenerateError → String
  | classify error => error.message
  | unsupported error => error.message

end GenerateError

/-- Full names of the types whose values are never absent. -/
def alwaysPresentTypes : List String :=
  numberTypes ++ ["System.Boolean", "System.Char", "System.Guid"]

/-- Values of the type are never absent: enumerations, numbers and other plain values. -/
def TypeFacts.isAlwaysPresent (facts : TypeFacts) : Bool :=
  facts.isEnum || (!facts.isGeneric && alwaysPresentTypes.contains facts.fullName)

/-- The property is marked as required, or its type is never absent. -/
def Property.isRequired (graph : TypeGraph) (property : Property) : Bool :=
  property.isMarkedRequired || (graph.facts property.type).isAlwaysPresent

namespace TypeTree

/-- The name of a type, if it has one of the identities. -/
def nameIfDeclared (identities : List Identity) (tree : TypeTree) : List String :=
  if identities.any tree.identity.same then [Name.withoutArity tree.facts.name] else []

mutual

/-- The names of the types inside a tree that have one of the identities. -/
def declaredReferences (identities : List Identity) : TypeTree → List String
  | type facts arguments =>
    nameIfDeclared identities (type facts arguments)
      ++ allDeclaredReferences identities arguments
  | withElement facts element arguments =>
    nameIfDeclared identities (withElement facts element arguments)
      ++ declaredReferences identities element ++ allDeclaredReferences identities arguments
  | repeated _ _ => []

/-- The names for several trees. -/
def allDeclaredReferences (identities : List Identity) : List TypeTree → List String
  | [] => []
  | tree :: rest => declaredReferences identities tree ++ allDeclaredReferences identities rest

end

end TypeTree

/-- The declaration of a property's type in a language. -/
def propertyType (graph : TypeGraph) (settings : Settings) (target : Target)
    (strict required : Bool) (type : TypeRef) : Report GenerateError Declaration := do
  let shape ← Report.ofExcept ((graph.classify settings type).mapError .classify)
  (Declaration.settle target strict (shape.declare target settings (!strict) required)).mapError
    .unsupported

/-- A property of a view model: its line and the imports it needs. -/
def viewModelProperty (graph : TypeGraph) (settings : Settings) (documentation : Documentation)
    (strict : Bool) (ownerName : String) (property : Property) :
    Report GenerateError Declaration := do
  let required := property.isRequired graph
  let type ← propertyType graph settings .typescript strict required property.type
  let comment := typeScriptComment (documentation.memberSummary? ownerName property.name) 4
  return {
    text :=
      comment ++ "    " ++ Name.camelCase property.name ++ (if required then "" else "?") ++ ": "
        ++ type.text ++ ";\n"
    imports := type.imports }

/-- The object type of a class inside a unit that declares the types in `unit`. -/
def viewModel (graph : TypeGraph) (settings : Settings) (documentation : Documentation)
    (strict : Bool) (unit : List TypeRef) (type : TypeRef) : Report GenerateError Declaration := do
  let tree := graph.tree type
  let fullName := tree.facts.fullName
  let identities := tree.identity :: unit.map fun other => (graph.tree other).identity
  let properties := graph.properties type
  let ordered := Name.sortByName (fun (property : Property) => property.name) properties
  let lines ← ordered.mapM (viewModelProperty graph settings documentation strict fullName)
  -- Types of the unit are declared beside this one and need no import.
  let excluded := ordered.flatMap fun property =>
    (graph.tree property.type).declaredReferences identities
  Report.say (.generatedViewModel fullName properties.length)
  return {
    text :=
      typeScriptComment (documentation.typeSummary? fullName)
        ++ "export type " ++ tree.declaredName ++ " = \x7b\n"
        ++ "\n".intercalate (lines.map (·.text)) ++ "\x7d;\n"
    imports := Import.merge (lines.map (·.imports)) excluded }

/-- The object types of several classes, in the order given. -/
def viewModels (graph : TypeGraph) (settings : Settings) (documentation : Documentation)
    (strict : Bool) (types : List TypeRef) : Report GenerateError Declaration := do
  let declarations ← types.mapM (viewModel graph settings documentation strict types)
  return {
    text := "\n".intercalate (declarations.map (·.text))
    imports := Import.merge (declarations.map (·.imports)) }

end TypeExport
