import TypeExport.Declaration.Basic
import TypeExport.Shape.Basic

/-!
# TypeScript types

The TypeScript type of a shape.  A value that is not required may be `null` if its shape leaves
that to the place where it stands; nested types always count as required.

* `Shape.typeScript` — the type, with the mark of an optional value.
* `Shape.bareTypeScript` — the type without that mark.
-/

namespace TypeExport

namespace Shape

/-- The place where a value stands decides whether it may be absent. -/
def optionalByPlace : Shape → Bool
  | primitive .string _ | primitive .identifier _ | primitive .timestamp _ => true
  | primitive .boolean _ | primitive .number _ => false
  | array _ | collection _ | dictionary _ _ | container _ _ => true
  | globalEnum _ _ _ _ | domainEnum _ _ _ _ _ | entity _ _ _ | viewModel _ _ _ _ => true
  | nullable _ | parameter _ | unsupported _ => false

/-- The value may be absent where it stands. -/
def isOptional (required : Bool) (shape : Shape) : Bool :=
  match shape with
  | nullable _ => true
  | _ => !required && shape.optionalByPlace

/-- Add the mark of a value that may be absent. -/
def markOptional (optional : Bool) (declaration : Declaration) : Declaration :=
  if optional then { declaration with text := declaration.text ++ " | null" } else declaration

/-- The text has alternatives. -/
def hasAlternatives : List Char → Bool
  | [] => false
  | c :: rest => " | ".toList.isPrefixOf (c :: rest) || hasAlternatives rest

/-- A list type; element types with alternatives stand in parentheses. -/
def listOf (element : Declaration) : Declaration where
  text :=
    if hasAlternatives element.text.toList then "(" ++ element.text ++ ")[]"
    else element.text ++ "[]"
  imports := element.imports

mutual

/-- The type of a shape without the mark of an optional value. -/
def bareTypeScript (settings : Settings) (lenient : Bool) :
    Shape → Report UnsupportedType Declaration
  | primitive .boolean _ => return ⟨"boolean", []⟩
  | primitive .number _ => return ⟨"number", []⟩
  | primitive .identifier _ => return .imported "Guid" settings.modules.identifier
  | primitive .string _ | primitive .timestamp _ => return ⟨"string", []⟩
  | nullable inner => bareTypeScript settings lenient inner
  | array element | collection element => do
    let inner ← bareTypeScript settings lenient element
    return listOf (markOptional (element.isOptional true) inner)
  | dictionary key value => do
    let keyType ← bareTypeScript settings lenient key
    let valueType ← bareTypeScript settings lenient value
    return .apply "Record"
      [markOptional (key.isOptional true) keyType, markOptional (value.isOptional true) valueType]
  | container name arguments => do
    let argumentTypes ← argumentTypeScripts settings lenient arguments
    return .apply name argumentTypes [⟨settings.modules.box, name⟩]
  | globalEnum name _ path _ | domainEnum name _ _ path _ =>
    return .imported name (settings.modules.enumsRoot ++ "/" ++ path)
  | entity _ _ _ => return .imported settings.referenceBag settings.modules.referenceBag
  | viewModel name _ path _ =>
    return .imported name (settings.modules.viewModelsRoot ++ "/" ++ path)
  | parameter name => return ⟨name, []⟩
  | unsupported displayName => Declaration.unsupported .typescript lenient displayName

/-- The types of the arguments of a container. -/
def argumentTypeScripts (settings : Settings) (lenient : Bool) :
    List Shape → Report UnsupportedType (List Declaration)
  | [] => return []
  | shape :: rest => do
    let first ← bareTypeScript settings lenient shape
    let others ← argumentTypeScripts settings lenient rest
    return markOptional (shape.isOptional true) first :: others

end

/-- The type of a shape, with the mark of an optional value. -/
def typeScript (settings : Settings) (lenient required : Bool) (shape : Shape) :
    Report UnsupportedType Declaration := do
  let bare ← bareTypeScript settings lenient shape
  return markOptional (shape.isOptional required) bare

end Shape

end TypeExport
