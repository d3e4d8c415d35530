/-!
# Paths

A path to a file or folder, as text in a normal form: no empty steps and no steps that stay where
they are.

* `Path` — where a path starts and its steps.
* `Path.ofText`, `Path.text` — reading and writing.
* `Path.parent` — the path of the folder around.
-/

namespace TypeExport

/-- A path.  `root` is empty for a path that starts at the working folder. -/
structure Path where
  root : String
  steps : List String
deriving DecidableEq, Repr

namespace Path

/-- The root of a text: one slash, but exactly two slashes count as a root of their own. -/
def rootOf : List Char → String
  | '/' :: '/' :: '/' :: _ => "/"
  | '/' :: '/' :: _ => "//"
  | '/' :: _ => "/"
  | _ => ""

/-- A step leads somewhere. -/
def isStep (step : String) : Bool :=
  step != "" && step != "."

/-- The path that a text denotes. -/
def ofText (text : String) : Path where
  root := rootOf text.toList
  steps := ((text.toList.splitOn '/').map String.ofList).filter isStep

/-- The path as text. -/
def text (path : Path) : String :=
  if path.root = "" && path.steps.isEmpty then "." else path.root ++ "/".intercalate path.steps

/-- The path without its last step; a path without steps is its own parent. -/
def parent (path : Path) : Path :=
  { path with steps := path.steps.dropLast }

/-- The path of a file inside the folder at a path. -/
def within (path : Path) (name : String) : Path :=
  { path with steps := path.steps ++ [name] }

/-- A path starts at the working folder. -/
def isRelative (path : Path) : Bool :=
  path.root == ""

end Path

end TypeExport
