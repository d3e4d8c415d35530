import TypeExport.Expression.Parse
import TypeExport.Yaml.Field

/-!
# Errors of catalogs

Why a document is no catalog, and where in the document the reason lies.

* `Place` — a part of a catalog.
* `SchemaProblem` — a part that does not have the required form.
* `CatalogError` — why there is no catalog or no such type.
-/

namespace TypeExport

/-- Kinds of members. -/
inductive MemberKind where
  | property
  | field
  | constant
deriving DecidableEq, Repr

namespace MemberKind

/-- The word of a message for the kind. -/
def word : MemberKind → String
  | property => "property"
  | field => "field"
  | constant => "constant"

end MemberKind

/-- A part of a catalog. -/
inductive Place where
  /-- Some entry. -/
  | entry
  | type (name : String)
  /-- Some member of a type. -/
  | member (type : String) (kind : MemberKind)
  /-- A member of a type, with the display of what stands as its name. -/
  | named (type : String) (kind : MemberKind) (name : String)
  /-- A marker on some part. -/
  | marker (place : Place)
deriving DecidableEq, Repr

namespace Place

/-- The words of a message for the part. -/
def words : Place → String
  | entry => "type entry"
  | type name => "type '" ++ name ++ "'"
  | member typeName kind => "type '" ++ typeName ++ "' " ++ kind.word
  | named typeName kind name => "type '" ++ typeName ++ "' " ++ kind.word ++ " '" ++ name ++ "'"
  | marker place => place.words ++ " attribute"

end Place

/-- A part of a document that does not have the required form. -/
inductive SchemaProblem where
  | notCatalog
  | typesNotList
  | entryNotMapping
  | unknownField (place : Place) (field : String)
  | wrongValue (place : Place) (key : String) (expected : Yaml.Expected)
  | wrongMarker (place : Place)
  | wrongArguments (place : Place)
deriving DecidableEq, Repr

namespace SchemaProblem

/-- The text shown for the problem. -/
def message : SchemaProblem → String
  | notCatalog => "catalog must be a YAML mapping with a 'types' list"
  | typesNotList => "'types' must be a list"
  | entryNotMapping => "each type entry must be a mapping"
  | unknownField place field => place.words ++ ": unknown field '" ++ field ++ "'"
  | wrongValue place key expected =>
    place.words ++ ": '" ++ key ++ "' must be " ++ expected.words
  | wrongMarker place => place.words ++ ": each attribute must be a string or a mapping"
  | wrongArguments place => place.words ++ ": attribute 'arguments' must be a list of scalars"

end SchemaProblem

/-- Why there is no catalog, or no such type in it.  `label` names the document. -/
inductive CatalogError where
  | invalidYaml (label : String)
  /-- The document asks for a value that does not exist. -/
  | noValue (label : String)
  | schema (label : String) (problem : SchemaProblem)
  /-- The type of a property is no type expression. -/
  | expression (error : Expression.ExpressionError)
  | notDeclared (name : String)
  | fileNotFound (path : String)
  | unreadable (detail : String)
deriving DecidableEq, Repr

namespace CatalogError

/-- The text shown for the error; a value that does not exist is not told as an error. -/
def message : CatalogError → String
  | invalidYaml label => "Invalid YAML in " ++ label
  | noValue _ => ""
  | schema label problem => label ++ ": " ++ problem.message
  | expression error => error.message
  | notDeclared name => "Type '" ++ name ++ "' is not declared in the catalog"
  | fileNotFound path => "Type catalog not found: " ++ path
  | unreadable detail => "Cannot read type catalog: " ++ detail

end CatalogError

namespace Catalog

/-- The place of a declared type that has to exist. -/
def get (catalog : Catalog) (name : String) : Except CatalogError Nat :=
  match catalog.find? name with
  | some place => .ok place
  | none => .error (.notDeclared name)

end Catalog

end TypeExport
