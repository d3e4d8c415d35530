import TypeExport.Documentation.Basic
import TypeExport.Documentation.Comment
import TypeExport.Metadata
import TypeExport.Name.Order

/-!
# Enumerations

An enumeration becomes three TypeScript declarations: a table of values, a table of descriptions
under the same values, and a type.

* `EnumMember`, `enumMembers` — the members, read once.
* `described` — the members that the table of descriptions holds.
* `enumDeclaration`, `enumDeclarations` — the declarations.
-/

namespace TypeExport

/-- A member of an enumeration. -/
structure EnumMember where
  name : String
  value : Int
  description? : Option String := none
  isObsolete : Bool := false
  obsoleteMessage? : Option String := none
  /-- The enumeration is made of flags. -/
  isFlags : Bool := false
deriving DecidableEq, Repr

namespace EnumMember

/-- A value as thirty-two bits in at least four hexadecimal digits. -/
def flagsLiteral (value : Int) : String :=
  "0x" ++ .ofList ((Text.hexadecimal 4 (value % 0x100000000).toNat).map Char.toUpper)

/-- The value in the table of values. -/
def literal (member : EnumMember) : String :=
  if member.isFlags then flagsLiteral member.value else toString member.value

/-- The key in the table of descriptions. -/
def key (member : EnumMember) : String :=
  if member.value < 0 then "[" ++ toString member.value ++ "]" else toString member.value

/-- The description of the member: the one it was given, or the words of its name. -/
def displayText (member : EnumMember) : String :=
  member.description?.getD (Name.splitWords member.name)

end EnumMember

/-- Read a field of an enumeration. -/
def EnumMember.read (settings : Settings) (isFlags : Bool) (field : Field) :
    Except MetadataError EnumMember := do
  let metadata ← Metadata.read settings (.field field)
  return {
    name := field.name
    value := field.value
    description? := metadata.description?
    isObsolete := metadata.isObsolete
    obsoleteMessage? := metadata.obsoleteMessage?
    isFlags }

/-- The members of an enumeration, in order of declaration. -/
def enumMembers (settings : Settings) (tree : TypeTree) (fields : List Field) :
    Except MetadataError (List EnumMember) := do
  let metadata ← Metadata.read settings (.type tree)
  fields.mapM (EnumMember.read settings metadata.isFlags)

/-- Some member with the value is not obsolete. -/
def hasCurrent (members : List EnumMember) (value : Int) : Bool :=
  members.any fun member => !member.isObsolete && member.value == value

/-- The members that have a description: all but the obsolete ones whose value another member
has taken over. -/
def described (members : List EnumMember) : List EnumMember :=
  members.filter fun member => !(member.isObsolete && hasCurrent members member.value)

/-- The entries of a table, with a comma and a blank line between them. -/
def tableEntries (entries : List String) : String :=
  if entries.isEmpty then "" else ",\n\n".intercalate entries ++ "\n"

/-- The line of a member in the table of values, below its comments. -/
def EnumMember.valueEntry (documentation : Documentation) (typeName : String)
    (member : EnumMember) : String :=
  typeScriptComment (documentation.memberSummary? typeName member.name) 4
    ++ (if member.isObsolete then deprecationMark member.obsoleteMessage? 4 else "")
    ++ "    " ++ member.name ++ ": " ++ member.literal

/-- The line of a member in the table of descriptions. -/
def EnumMember.descriptionEntry (member : EnumMember) : String :=
  "    " ++ member.key ++ ": " ++ Text.doubleQuoted member.displayText

/-- The table of values. -/
def valueTable (name : String) (entries : List String) : String :=
  "export const " ++ name ++ " = \x7b\n" ++ tableEntries entries ++ "\x7d as const;\n"

/-- The table of descriptions. -/
def descriptionTable (name : String) (entries : List String) : String :=
  "export const " ++ name ++ "Description: Record<number, string> = \x7b\n" ++ tableEntries entries
    ++ "\x7d;\n"

/-- The type of an enumeration: any number for flags, and otherwise one of the values. -/
def enumAlias (name : String) (isFlags : Bool) : String :=
  if isFlags then "export type " ++ name ++ " = number;\n"
  else "export type " ++ name ++ " = typeof " ++ name ++ "[keyof typeof " ++ name ++ "];\n"

/-- The declarations of an enumeration. -/
def enumDeclaration (graph : TypeGraph) (settings : Settings) (documentation : Documentation)
    (type : TypeRef) : Except MetadataError String := do
  let tree := graph.tree type
  let metadata ← Metadata.read settings (.type tree)
  let members ← enumMembers settings tree (graph.fields type)
  let name := tree.facts.name
  let fullName := tree.facts.fullName
  let comment := typeScriptComment (documentation.typeSummary? fullName)
  let mark := if metadata.isObsolete then deprecationMark metadata.obsoleteMessage? 0 else ""
  return "\n".intercalate [
    comment ++ mark ++ valueTable name (members.map (·.valueEntry documentation fullName)),
    comment ++ descriptionTable name ((described members).map (·.descriptionEntry)),
    comment ++ enumAlias name metadata.isFlags]

/-- The declarations of several enumerations, sorted by name. -/
def enumDeclarations (graph : TypeGraph) (settings : Settings) (documentation : Documentation)
    (types : List TypeRef) : Except MetadataError String := do
  let ordered := Name.sortByName (fun type => (graph.facts type).name) types
  let texts ← ordered.mapM (enumDeclaration graph settings documentation)
  return "\n".intercalate texts

end TypeExport
