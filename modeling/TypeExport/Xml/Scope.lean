import TypeExport.Xml.Chars
import TypeExport.Xml.Node

/-!
# Namespaces

Some attributes of an element bind qualifiers to namespaces, for the element and all inside it.

* `Scope` — the bindings at a place.
* `Scope.enter?` — the bindings inside a tag.
* `Scope.elementName?`, `Scope.attributes?` — the names and attributes of a tag.
-/

namespace TypeExport.Xml

/-- The namespaces of qualifiers, the innermost first.  The empty qualifier stands for names
without one, and the empty namespace for none. -/
abbrev Scope := List (String × String)

namespace Scope

/-- The qualifier, and the name, of attributes that bind qualifiers. -/
def bindingWord : String := "xmlns"

/-- The namespace of attributes that bind qualifiers. -/
def bindingSpace : String := "http://www.w3.org/2000/xmlns/"

/-- The bindings around the root. -/
def outermost : Scope := [(standardPrefix, standardSpace)]

/-- The qualifier that an attribute binds, if it binds one. -/
def bound? (name : Written) : Option String :=
  match name.qualifier? with
  | none => if name.part = bindingWord then some "" else none
  | some qualifier => if qualifier = bindingWord then some name.part else none

/-- A qualifier may be bound to a namespace. -/
def mayBind (qualifier space : String) : Bool :=
  qualifier != bindingWord && space != bindingSpace && !space.toList.contains '}'
    && (qualifier == standardPrefix) == (space == standardSpace)
    && (qualifier == "" || space != "")

/-- The bindings inside a tag with the given attributes. -/
def enter? (scope : Scope) : List (Written × String) → Option Scope
  | [] => some scope
  | (name, value) :: rest =>
    match bound? name with
    | none => enter? scope rest
    | some qualifier =>
      if mayBind qualifier value then enter? ((qualifier, value) :: scope) rest else none

/-- The name of an element. -/
def elementName? (scope : Scope) (name : Written) : Option Name :=
  match name.qualifier? with
  | none => some ⟨name.part, (scope.lookup "").filter (· != "")⟩
  | some qualifier => (scope.lookup qualifier).map fun space => ⟨name.part, some space⟩

/-- The name of an attribute; without a qualifier it is in no namespace. -/
def attributeName? (scope : Scope) (name : Written) : Option Name :=
  match name.qualifier? with
  | none => some ⟨name.part, none⟩
  | some _ => scope.elementName? name

/-- Something occurs twice in a list. -/
def hasRepetition {α : Type} [BEq α] : List α → Bool
  | [] => false
  | item :: rest => rest.contains item || hasRepetition rest

/-- The attributes of a tag apart from those that bind qualifiers.  No name occurs twice. -/
def attributes? (scope : Scope) (entries : List (Written × String)) : Option (List Attribute) := do
  let others := entries.filter fun (name, _) => (bound? name).isNone
  let attributes ← others.mapM fun (name, value) => do return ⟨← scope.attributeName? name, value⟩
  if hasRepetition (attributes.map (·.name)) then none else return attributes

end Scope

end TypeExport.Xml
