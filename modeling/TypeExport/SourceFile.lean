import TypeExport.Declaration.Import
import TypeExport.Name.Space
import TypeExport.Settings

/-!
# Source files

Declarations become a file: comments at the top, what the file imports, and the declarations.

* `typeScriptImports` — import statements, one for each module.
* `cSharpUsings` — using directives, grouped by the first segment of the namespace.
* `typeScriptFile`, `cSharpFile` — whole files.
-/

namespace TypeExport

/-- Put a text into a sorted list, unless it is there. -/
def insertDistinct (before : String → String → Bool) (item : String) : List String → List String
  | [] => [item]
  | first :: rest =>
    if item = first then first :: rest
    else if before item first then item :: first :: rest
    else first :: insertDistinct before item rest

/-- The texts of a list, sorted and each one once. -/
def sortDistinct (before : String → String → Bool) (items : List String) : List String :=
  items.foldr (insertDistinct before) []

/-- Texts by code point. -/
def byCodePoint (a b : String) : Bool :=
  decide (a < b)

/-- A module path relative to the importing file. -/
def isRelativePath (path : String) : Bool :=
  ['.'].isPrefixOf path.toList

/-- Modules by path, with relative paths last. -/
def byModule (a b : String) : Bool :=
  if isRelativePath a == isRelativePath b then byCodePoint a b else isRelativePath b

/-- The import statement of a module. -/
def importStatement (path : String) (names : List String) : String :=
  "import \x7b " ++ ", ".intercalate names ++ " \x7d from \"" ++ path ++ "\";\n"

/-- Import statements, one for each module with all of its names. -/
def typeScriptImports (imports : List Import) : String :=
  let paths := sortDistinct byModule (imports.map (·.path))
  String.join (paths.map fun path =>
    importStatement path
      (sortDistinct byCodePoint ((imports.filter (·.path == path)).map (·.name))))

/-- The namespace belongs to the system. -/
def isSystemSpace (space : String) : Bool :=
  Name.rootSegment space == "System"

/-- Namespaces by name, with those of the system first. -/
def bySpace (a b : String) : Bool :=
  if isSystemSpace a == isSystemSpace b then byCodePoint a b else isSystemSpace a

/-- Neighbouring namespaces with the same first segment form a group. -/
def groupByRoot : List String → List (List String)
  | [] => []
  | space :: rest =>
    match groupByRoot rest with
    | (next :: group) :: groups =>
      if Name.rootSegment space == Name.rootSegment next then (space :: next :: group) :: groups
      else [space] :: (next :: group) :: groups
    | groups => [space] :: groups

/-- Using directives of one group. -/
def usingGroup (spaces : List String) : String :=
  String.join (spaces.map fun space => "using " ++ space ++ ";\n")

/-- Using directives, with a blank line between groups. -/
def cSharpUsings (spaces : List String) : String :=
  "\n".intercalate ((groupByRoot (sortDistinct bySpace spaces)).map usingGroup)

/-- End a text with a line break. -/
def endLine (text : String) : String :=
  if ['\n'].isSuffixOf text.toList then text else text ++ "\n"

/-- The comments at the top of a file; the one that marks a generated file is optional. -/
def header (settings : Settings) (generated : Bool) : List String :=
  let comments :=
    settings.copyrightComment?.toList
      ++ (if generated then settings.generatedComment?.toList else [])
  (comments.filter (· != "")).map endLine

/-- Sections with a blank line between them; an empty section is left out. -/
def section? (text : String) : List String :=
  if text = "" then [] else [text]

/-- A TypeScript file. -/
def typeScriptFile (settings : Settings) (body : String) (imports : List Import := [])
    (generated : Bool := true) : String :=
  "\n".intercalate (header settings generated ++ section? (typeScriptImports imports) ++ [body])

/-- A C# file, whose declarations stand in a namespace block. -/
def cSharpFile (settings : Settings) (body space : String) (imports : List Import := [])
    (generated : Bool := false) : String :=
  let needed := (imports.map (·.path)).filter fun path => path != "" && path != space
  "\n".intercalate
    (header settings generated ++ section? (cSharpUsings needed)
      ++ ["namespace " ++ space ++ "\n\x7b\n" ++ body ++ "\x7d\n"])

end TypeExport
