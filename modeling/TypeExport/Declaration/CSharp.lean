import TypeExport.Declaration.TypeScript

/-!
# C# types

The C# type of a shape, and rendering for either target.

* `Shape.cSharp` — the C# type.
* `Shape.declare` — the type in the language of a target.
-/

namespace TypeExport

/-- The keyword of a number type; anything else counts as an integer. -/
def numberKeyword : String → String
  | "Byte" => "byte"
  | "SByte" => "sbyte"
  | "Int16" => "short"
  | "UInt16" => "ushort"
  | "Int32" => "int"
  | "UInt32" => "uint"
  | "Int64" => "long"
  | "UInt64" => "ulong"
  | "Single" => "float"
  | "Double" => "double"
  | "Decimal" => "decimal"
  | _ => "int"

/-- The namespace of the generic collections. -/
def collectionsSpace : String := "System.Collections.Generic"

namespace Shape

/-- Put text behind a declaration. -/
def withSuffix (suffix : String) (declaration : Declaration) : Declaration :=
  { declaration with text := declaration.text ++ suffix }

mutual

/-- The C# type of a shape. -/
def cSharp (settings : Settings) (lenient : Bool) : Shape → Report UnsupportedType Declaration
  | primitive .boolean _ => return ⟨"bool", []⟩
  | primitive .number typeName => return ⟨numberKeyword typeName, []⟩
  | primitive .string _ => return ⟨"string", []⟩
  | primitive .identifier typeName | primitive .timestamp typeName =>
    return .imported typeName "System"
  | nullable inner => do
    let declaration ← cSharp settings lenient inner
    return withSuffix "?" declaration
  | array element => do
    let declaration ← cSharp settings lenient element
    return withSuffix "[]" declaration
  | collection element => do
    let declaration ← cSharp settings lenient element
    return .apply "List" [declaration] [⟨collectionsSpace, "List"⟩]
  | dictionary key value => do
    let keyType ← cSharp settings lenient key
    let valueType ← cSharp settings lenient value
    return .apply "Dictionary" [keyType, valueType] [⟨collectionsSpace, "Dictionary"⟩]
  | container name arguments => do
    let argumentTypes ← argumentCSharps settings lenient arguments
    return .apply name argumentTypes [⟨settings.utilitySpace, name⟩]
  | entity _ _ _ => return .imported settings.referenceBag settings.utilitySpace
  | globalEnum name space _ _ | domainEnum name space _ _ _ | viewModel name space _ _ =>
    return .imported name space
  | parameter name => return ⟨name, []⟩
  | unsupported displayName => Declaration.unsupported .csharp lenient displayName

/-- The types of the arguments of a container. -/
def argumentCSharps (settings : Settings) (lenient : Bool) :
    List Shape → Report UnsupportedType (List Declaration)
  | [] => return []
  | shape :: rest => do
    let first ← cSharp settings lenient shape
    let others ← argumentCSharps settings lenient rest
    return first :: others

end

/-- The type of a shape in the language of a target.  Only TypeScript asks whether a value is
required. -/
def declare (target : Target) (settings : Settings) (lenient required : Bool) (shape : Shape) :
    Report UnsupportedType Declaration :=
  match target with
  | .typescript => typeScript settings lenient required shape
  | .csharp => cSharp settings lenient shape

end Shape

end TypeExport
