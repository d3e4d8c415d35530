import TypeExport.Documentation.Basic
import TypeExport.Documentation.Comment
import TypeExport.Name.Order
import TypeExport.Reflection.Tree

/-!
# Tables of constants

The string constants of a class as a TypeScript table, sorted by their declared names.

* `constantTable`, `constantTables` — the tables of one class and of several.
-/

namespace TypeExport

/-- The line of a constant, below its comment. -/
def constantEntry (documentation : Documentation) (typeName : String) (constant : Constant) :
    String :=
  typeScriptComment (documentation.memberSummary? typeName constant.name) 4 ++ "    "
     ++ Name.constantMember constant.name ++ ": " ++ Text.doubleQuoted constant.value ++ ",\n"

/-- The table of a class. -/
def constantTable (graph : TypeGraph) (documentation : Documentation) (type : TypeRef) : String :=
  let facts := graph.facts type
  let ordered := Name.sortByName (fun (constant : Constant) => constant.name) (graph.constants type)
  typeScriptComment (documentation.typeSummary? facts.fullName)
    ++ "export const " ++ facts.name ++ " = \x7b\n"
    ++ String.join (ordered.map (constantEntry documentation facts.fullName)) ++ "\x7d;\n"

/-- The tables of several classes, sorted by name. -/
def constantTables (graph : TypeGraph) (documentation : Documentation) (types : List TypeRef) :
    String :=
  let ordered := Name.sortByName (fun type => (graph.facts type).name) types
  "\n".intercalate (ordered.map (constantTable graph documentation))

end TypeExport
