import TypeExport.Reflection.Name
import TypeExport.Settings

/-!
# Metadata

What the markers of a type, property or field say: that it is obsolete and why, that an
enumeration is made of flags, a description, and the domain of an enumeration.

* `Metadata`, `Metadata.read` — the markers read once for each element.
* `Marked` — an element that carries markers.
* `MetadataError` — a marker without the argument it needs.
-/

namespace TypeExport

/-- What the markers of an element say. -/
structure Metadata where
  isObsolete : Bool := false
  obsoleteMessage? : Option String := none
  isFlags : Bool := false
  description? : Option String := none
  domain? : Option String := none
deriving DecidableEq, Repr

/-- An element that carries markers. -/
inductive Marked where
  | type (tree : TypeTree)
  | property (name typeFullName : String) (markers : List Marker)
  | field (member : Field)

/-- A marker as it is shown in messages. -/
def Marker.literal (marker : Marker) : String :=
  "AttributeData(type_name=" ++ Text.literal marker.type ++ ", arguments="
    ++ tupleLiteral (marker.arguments.map (·.literal)) ++ ")"

/-- A property as it is shown in messages. -/
def propertyLiteral (name typeFullName : String) : String :=
  "PropertyHandle(" ++ Text.literal name ++ ": " ++ Text.literal typeFullName ++ ")"

namespace Marked

/-- The markers of the element. -/
def markers : Marked → List Marker
  | type tree => tree.facts.markers
  | property _ _ markers => markers
  | field member => member.markers

/-- The element as it is shown in messages. -/
def literal : Marked → String
  | type tree => tree.literal
  | property name typeFullName _ => propertyLiteral name typeFullName
  | field member =>
    "EnumFieldHandle(name=" ++ Text.literal member.name ++ ", value=" ++ toString member.value
      ++ ", attributes=" ++ tupleLiteral (member.markers.map (·.literal)) ++ ")"

/-- The first marker of a type. -/
def find? (element : Marked) (type : String) : Option Marker :=
  findMarker? element.markers type

end Marked

/-- What is wrong with the argument of a marker. -/
inductive ArgumentProblem where
  | missing
  | notText
  | notNonEmptyText
deriving DecidableEq, Repr

/-- A marker that does not have the argument it needs. -/
structure MetadataError where
  marker : String
  element : String
  problem : ArgumentProblem
deriving DecidableEq, Repr

namespace MetadataError

/-- The text shown for the error. -/
def message (error : MetadataError) : String :=
  "Annotation '" ++ error.marker ++ "' on " ++ error.element ++
    match error.problem with
    | .missing => " is missing its argument"
    | .notText => " expects a string argument"
    | .notNonEmptyText => " expects a non-empty string argument"

end MetadataError

namespace Metadata

/-- The full name of the marker that marks an element as obsolete. -/
def obsoleteMarker : String := "System.ObsoleteAttribute"

/-- The full name of the marker that marks an enumeration as made of flags. -/
def flagsMarker : String := "System.FlagsAttribute"

/-- The full name of the marker that describes an element. -/
def descriptionMarker : String := "System.ComponentModel.DescriptionAttribute"

/-- The text that a marker may give as its first argument. -/
def optionalText (element : Marked) :
    Option Marker → Except MetadataError (Option String)
  | none => .ok none
  | some marker =>
    match marker.arguments with
    | [] => .ok none
    | .null :: _ => .ok none
    | .text text :: _ => .ok (some text)
    | _ => .error ⟨marker.type, element.literal, .notText⟩

/-- The text that a marker has to give as its first argument. -/
def requiredText (element : Marked) :
    Option Marker → Except MetadataError (Option String)
  | none => .ok none
  | some marker =>
    match marker.arguments with
    | [] => .error ⟨marker.type, element.literal, .missing⟩
    | .text text :: _ =>
      if text = "" then .error ⟨marker.type, element.literal, .notNonEmptyText⟩
      else .ok (some text)
    | _ => .error ⟨marker.type, element.literal, .notNonEmptyText⟩

/-- Read the markers of an element. -/
def read (settings : Settings) (element : Marked) : Except MetadataError Metadata := do
  let obsolete? := element.find? obsoleteMarker
  let obsoleteMessage? ← optionalText element obsolete?
  let description? ← optionalText element (element.find? descriptionMarker)
  let domain? ← requiredText element (element.find? settings.domainMarker)
  return {
    isObsolete := obsolete?.isSome
    obsoleteMessage?
    isFlags := (element.find? flagsMarker).isSome
    description?
    domain? }

end Metadata

end TypeExport
