/-!
# Imports

Names that generated code has to bring into scope.

* `Import` — a name and the module or namespace that holds it.
* `Import.merge` — the union of several lists, sorted and without repetition.
-/

namespace TypeExport

/-- A request to bring a name into scope.  The path is a module for TypeScript and a namespace
for C#. -/
structure Import where
  path : String
  name : String
deriving DecidableEq, Repr

namespace Import

/-- Imports are sorted by path, then by name. -/
def before (a b : Import) : Bool :=
  decide (a.path < b.path) || (a.path == b.path && decide (a.name < b.name))

/-- Put an import into a sorted list, unless it is there. -/
def insert (item : Import) : List Import → List Import
  | [] => [item]
  | first :: rest =>
    if item = first then first :: rest
    else if item.before first then item :: first :: rest
    else first :: insert item rest

/-- The imports of a list, sorted and each one once. -/
def canonical (imports : List Import) : List Import :=
  imports.foldr insert []

/-- The union of several lists without the imports of the excluded names. -/
def merge (groups : List (List Import)) (excluded : List String := []) : List Import :=
  canonical (groups.flatten.filter fun item => !excluded.contains item.name)

end Import

end TypeExport
