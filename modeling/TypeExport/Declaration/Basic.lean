import TypeExport.Declaration.Import
import TypeExport.Report
import TypeExport.Settings

/-!
# Declarations

A piece of generated code together with the names it needs from elsewhere.

* `Declaration` — text and imports.
* `UnsupportedType` — the failure of a declaration that may not hold a placeholder.
* `Declaration.apply` — a generic name applied to the declarations of its arguments.
* `unsupported` — fail on a type, or put a placeholder in its place.
-/

namespace TypeExport

/-- A piece of code and the imports it needs, sorted and without repetition. -/
structure Declaration where
  text : String
  imports : List Import := []
deriving DecidableEq, Repr

/-- A type that no rule can render. -/
structure UnsupportedType where
  displayName : String
deriving DecidableEq, Repr

namespace UnsupportedType

/-- The text shown for the error. -/
def message (error : UnsupportedType) : String :=
  "Unsupported type '" ++ error.displayName ++ "'"

end UnsupportedType

namespace Declaration

/-- A generic name applied to the declarations of its arguments, with imports of its own. -/
def apply (name : String) (arguments : List Declaration) (own : List Import := []) :
    Declaration where
  text := name ++ "<" ++ ", ".intercalate (arguments.map (·.text)) ++ ">"
  imports := Import.merge (own :: arguments.map (·.imports))

/-- A name with the import that brings it into scope. -/
def imported (name path : String) : Declaration :=
  ⟨name, [⟨path, name⟩]⟩

/-- A placeholder for an unsupported type, with a warning. -/
def placeholderFor {ε : Type} (target : Target) (displayName : String) : Report ε Declaration := do
  Report.say (.unsupportedType displayName target)
  return ⟨target.placeholder, []⟩

/-- An unsupported type: a placeholder if `lenient`, a failure otherwise. -/
def unsupported (target : Target) (lenient : Bool) (displayName : String) :
    Report UnsupportedType Declaration :=
  if lenient then placeholderFor target displayName else .fail ⟨displayName⟩

/-- Settle a declaration that may have failed: keep the failure if `strict`, and put a
placeholder in its place otherwise. -/
def settle (target : Target) (strict : Bool) (report : Report UnsupportedType Declaration) :
    Report UnsupportedType Declaration :=
  match report.outcome with
  | .ok _ => report
  | .error error =>
    if strict then report
    else
      ⟨report.notices ++ [.unsupportedType error.displayName target], .ok ⟨target.placeholder, []⟩⟩

end Declaration

end TypeExport
