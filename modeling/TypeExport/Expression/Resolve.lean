import TypeExport.Catalog.Basic
import TypeExport.Declaration.CSharp
import TypeExport.Shape.Classify

/-!
# Names in type expressions

What a name in a type expression stands for, with the arguments it is applied to: a type
parameter, a keyword, a type of the system, a collection, the box, or a declared type.

* `Scope` — the catalog, type parameters and settings that names are looked up with.
* `Scope.resolve` — the type that a name with arguments stands for.
* `NameProblem` — why it stands for none.
-/

namespace TypeExport.Expression

/-- Why a name stands for no type. -/
inductive NameProblem where
  | unknownType (name : String)
  | needsArguments (name : String) (count : Nat)
  | unknownGeneric (name : String) (count : Nat)
deriving DecidableEq, Repr

/-- Keywords and other short names, and the types of the namespace `System` they stand for. -/
def keywords : List (String × String) :=
  [("bool", "Boolean"), ("byte", "Byte"), ("sbyte", "SByte"), ("short", "Int16"),
    ("ushort", "UInt16"), ("int", "Int32"), ("uint", "UInt32"), ("long", "Int64"),
    ("ulong", "UInt64"), ("float", "Single"), ("double", "Double"), ("decimal", "Decimal"),
    ("string", "String"), ("Guid", "Guid"), ("DateTime", "DateTime"),
    ("DateTimeOffset", "DateTimeOffset")]

/-- The part of a name behind the namespace `System`, if it stands there. -/
def systemName? (name : String) : Option String :=
  if "System.".toList.isPrefixOf name.toList then some (.ofList (name.toList.drop 7)) else none

/-- What names are looked up with. -/
structure Scope where
  catalog : Catalog := {}
  /-- Names that denote open type parameters. -/
  parameters : List String := []
  settings : Settings := {}

namespace Scope

/-- What a name without arguments stands for. -/
def resolvePlain (scope : Scope) (name : String) : Except NameProblem TypeRef :=
  if scope.parameters.contains name then .ok (.parameter name)
  else
    match keywords.lookup name with
    | some system => .ok (.system system)
    | none =>
      -- The types behind the keywords have full names as well.
      match (systemName? name).filter fun rest => (keywords.map (·.2)).contains rest with
      | some system => .ok (.system system)
      | none =>
        match scope.catalog.find? name with
        | some place =>
          let parameters := (scope.catalog.graph.factsAt place).parameters
          if parameters.isEmpty then .ok (.declared place)
          else .error (.needsArguments name parameters.length)
        | none =>
          -- A full name that is not declared stands for a type outside of the catalog.
          if name.toList.contains '.' then
            .ok (.named (Name.lastSegment name) (some (Name.parentSpace name)))
          else .error (.unknownType name)

/-- The head of a generic type of the collections namespace. -/
def collectionHead (name : String) (interfaces : List String := []) : GenericHead where
  name := name
  space? := some collectionsSpace
  definition := collectionsSpace ++ "." ++ name
  interfaces := interfaces

/-- The head of the box, whose full name the settings give. -/
def boxHead (settings : Settings) : GenericHead where
  name := Name.lastSegment settings.boxDefinition
  space? :=
    let space := Name.parentSpace settings.boxDefinition
    if space = "" then none else some space
  definition := settings.boxDefinition

/-- The names of the box in expressions. -/
def boxNames (settings : Settings) : List String :=
  let fullName := Name.withoutArity settings.boxDefinition
  [fullName, Name.lastSegment fullName]

/-- The head of a declared generic type; what is constructed from it keeps its interfaces and
markers. -/
def declaredHead (facts : TypeFacts) : GenericHead where
  name := facts.name
  space? := facts.space?
  definition := facts.fullName
  interfaces := facts.interfaces
  markers := facts.markers

/-- The head of the generic type that a name with a number of arguments stands for. -/
def genericHead? (scope : Scope) (name : String) (arity : Nat) : Option GenericHead :=
  let simple := Name.lastSegment name
  if (["List", "ICollection", "HashSet"].contains simple) && arity == 1 then
    some (collectionHead (simple ++ "`1") [collectionInterface])
  else if (["Dictionary", "IDictionary"].contains simple) && arity == 2 then
    some (collectionHead (simple ++ "`2"))
  else if (boxNames scope.settings).contains name && arity == 1 then
    some (boxHead scope.settings)
  else
    match scope.catalog.find? name with
    | none => none
    | some place =>
      let facts := scope.catalog.graph.factsAt place
      if facts.parameters.length = arity then some (declaredHead facts) else none

/-- What a name with arguments stands for. -/
def resolveGeneric (scope : Scope) (name : String) (arguments : List TypeRef) :
    Except NameProblem TypeRef :=
  match Name.lastSegment name, arguments with
  | "Nullable", [inner] => .ok (.nullable inner)
  | _, _ =>
    match scope.genericHead? name arguments.length with
    | some head => .ok (.generic head arguments)
    | none => .error (.unknownGeneric name arguments.length)

/-- What a name with its arguments, if any, stands for. -/
def resolve (scope : Scope) (name : String) (arguments : List TypeRef) :
    Except NameProblem TypeRef :=
  match arguments with
  | [] => scope.resolvePlain name
  | _ => scope.resolveGeneric name arguments

end Scope

end TypeExport.Expression
