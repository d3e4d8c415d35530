import TypeExport.Catalog.Edit
import TypeExport.Catalog.Read
import TypeExport.ConstantTable
import TypeExport.Documentation.Read
import TypeExport.EntityBag
import TypeExport.Enumeration
import TypeExport.Settings.Read

/-!
# Workspaces

What code is generated from: settings, a catalog and documentation.

* `Workspace` — the three together.
* `Workspace.select` — types by name.
* `Workspace.viewModels`, `Workspace.enums`, `Workspace.constants`, `Workspace.entityBag` — the
  code generated for types of the catalog.
* `WorkspaceError` — why something could not be read or generated.
-/

namespace TypeExport

/-- What code is generated from. -/
structure Workspace where
  settings : Settings := {}
  catalog : Catalog := {}
  documentation : Documentation := {}

/-- Why something could not be read or generated. -/
inductive WorkspaceError where
  | settings (error : SettingsError)
  | catalog (error : CatalogError)
  | documentation (error : DocumentationError)
  | generate (error : GenerateError)
deriving DecidableEq, Repr

namespace WorkspaceError

/-- The text shown for the error. -/
def message : WorkspaceError → String
  | settings error => error.message
  | catalog error => error.message
  | documentation error => error.message
  | generate error => error.message

/-- Metadata could not be read. -/
def ofMetadata (error : MetadataError) : WorkspaceError :=
  generate (.classify (.metadata error))

end WorkspaceError

namespace Workspace

/-- The declared types. -/
def graph (workspace : Workspace) : TypeGraph :=
  workspace.catalog.graph

/-! ### Reading -/

/-- Replace the settings by those of a text. -/
def readSettings (workspace : Workspace) (label text : String) :
    Except WorkspaceError Workspace := do
  return { workspace with settings := ← (Settings.read label text).mapError .settings }

/-- Replace the catalog by that of a text, read under the current settings. -/
def readCatalog (workspace : Workspace) (label text : String) :
    Except WorkspaceError Workspace := do
  return {
    workspace with catalog := ← (Catalog.read workspace.settings label text).mapError .catalog }

/-- Add the documentation of a text. -/
def readDocumentation (workspace : Workspace) (label text : String) :
    Except WorkspaceError Workspace := do
  return {
    workspace with
    documentation := ← (workspace.documentation.read label text).mapError .documentation }

/-! ### Types -/

/-- The declared type of a name. -/
def get (workspace : Workspace) (name : String) : Except WorkspaceError TypeRef := do
  return .declared (← (workspace.catalog.get name).mapError .catalog)

/-- The declared types of some names; without any names, those at the given places. -/
def select (workspace : Workspace) (names : List String) (otherwise : List Nat) :
    Except WorkspaceError (List TypeRef) :=
  if names.isEmpty then .ok (otherwise.map .declared) else names.mapM workspace.get

/-- The type of an expression in which type parameters may stand. -/
def parse (workspace : Workspace) (parameters : List String) (expression : String) :
    Except WorkspaceError TypeRef :=
  let scope : Expression.Scope :=
    { catalog := workspace.catalog, parameters, settings := workspace.settings }
  (scope.parse expression).mapError fun error => .catalog (.expression error)

/-! ### Code -/

/-- The view models of some types. -/
def viewModels (workspace : Workspace) (strict : Bool) (types : List TypeRef) :
    Report WorkspaceError Declaration :=
  (TypeExport.viewModels workspace.graph workspace.settings workspace.documentation strict
    types).mapError .generate

/-- The tables of some enumerations. -/
def enums (workspace : Workspace) (types : List TypeRef) : Except WorkspaceError String :=
  (enumDeclarations workspace.graph workspace.settings workspace.documentation types).mapError
    WorkspaceError.ofMetadata

/-- The tables of constants of some types. -/
def constants (workspace : Workspace) (types : List TypeRef) : String :=
  constantTables workspace.graph workspace.documentation types

/-- The bag of an entity. -/
def entityBag (workspace : Workspace) (strict : Bool) (summary? : Option String)
    (type : TypeRef) : Report WorkspaceError Declaration :=
  let graph := workspace.graph
  let name := Name.withoutArity (graph.facts type).name
  (TypeExport.entityBag graph workspace.settings workspace.documentation strict name summary?
    (graph.ownedProperties type)).mapError .generate

/-- The summary of a type. -/
def summary? (workspace : Workspace) (type : TypeRef) : Option String :=
  workspace.documentation.typeSummary? (workspace.graph.facts type).fullName

end Workspace

end TypeExport
