/-!
# Documentation

Summaries of types and members under their documentation ids: a letter for the kind of element, a
colon and the full name.  A member may take its summary from another id.

* `Documentation` — summaries and references.
* `Documentation.find?` — the summary of an id, following references.
* `Documentation.typeSummary?`, `Documentation.memberSummary?` — summaries of elements.
-/

namespace TypeExport

/-- Summaries by documentation id, and for some ids the id whose summary they take. -/
structure Documentation where
  summaries : List (String × String) := []
  inherited : List (String × String) := []
deriving DecidableEq, Repr

namespace Documentation

/-- Something is known about the id. -/
def knows (documentation : Documentation) (id : String) : Bool :=
  (documentation.summaries.lookup id).isSome || (documentation.inherited.lookup id).isSome

/-- The summary that `steps` references from an id lead to at most. -/
def findWithin (documentation : Documentation) : Nat → String → Option String
  | 0, id => documentation.summaries.lookup id
  | steps + 1, id =>
    match documentation.summaries.lookup id with
    | some summary => some summary
    | none =>
      match documentation.inherited.lookup id with
      | some source => documentation.findWithin steps source
      | none => none

/-- The summary of an id.  A chain of references that is longer than the number of references
runs in a circle and leads nowhere. -/
def find? (documentation : Documentation) (id : String) : Option String :=
  documentation.findWithin documentation.inherited.length id

/-- The documentation id of a type. -/
def typeId (fullName : String) : String :=
  "T:" ++ fullName

/-- The documentation id of a property. -/
def propertyId (ownerName memberName : String) : String :=
  "P:" ++ ownerName ++ "." ++ memberName

/-- The documentation id of a field. -/
def fieldId (ownerName memberName : String) : String :=
  "F:" ++ ownerName ++ "." ++ memberName

/-- The summary of the type with a full name. -/
def typeSummary? (documentation : Documentation) (fullName : String) : Option String :=
  documentation.find? (typeId fullName)

/-- The summary of a member, as a property or else as a field. -/
def memberSummary? (documentation : Documentation) (ownerName memberName : String) :
    Option String :=
  (documentation.find? (propertyId ownerName memberName)).or
    (documentation.find? (fieldId ownerName memberName))

end Documentation

end TypeExport
