import TypeExport.Documentation.Basic
import TypeExport.Documentation.Summary
import TypeExport.Xml.Document

/-!
# Reading documentation

A documentation document lists members.  A member has a summary or refers to another member whose
summary it takes.  What is known about an id already is kept.

* `Documentation.enter` — enter a member.
* `Documentation.read` — enter all members of a text.
* `DocumentationError` — why a text cannot be read.
-/

namespace TypeExport

/-- Why there is no documentation.  `label` names the document. -/
inductive DocumentationError where
  | invalidXml (label : String)
  | fileNotFound (path : String)
  | unreadable (detail : String)
deriving DecidableEq, Repr

namespace DocumentationError

/-- The text shown for the error. -/
def message : DocumentationError → String
  | invalidXml label => "Invalid documentation XML in " ++ label
  | fileNotFound path => "Documentation file not found: " ++ path
  | unreadable detail => "Cannot read documentation file: " ++ detail

end DocumentationError

namespace Documentation

/-- A text that is there and not empty. -/
def nonEmpty? (text? : Option String) : Option String :=
  text?.filter (· != "")

/-- The id whose summary a member takes. -/
def source? (member : Xml.Element) : Option String := do
  nonEmpty? ((← (member.childrenNamed "inheritdoc").head?).attribute? "cref")

/-- Enter what a member says about its id, unless the id is known. -/
def enter (documentation : Documentation) (member : Xml.Element) : Documentation :=
  match nonEmpty? (member.attribute? "name") with
  | none => documentation
  | some id =>
    if documentation.knows id then documentation
    else
      match (member.childrenNamed "summary").head?, source? member with
      | some summary, _ =>
        { documentation with summaries := documentation.summaries ++ [(id, summaryText summary)] }
      | none, some source =>
        { documentation with inherited := documentation.inherited ++ [(id, source)] }
      | none, none => documentation

/-- The members of a document. -/
def members (root : Xml.Element) : List Xml.Element :=
  (root.childrenNamed "members").flatMap (·.childrenNamed "member")

/-- Enter the members of a text named `label` in messages. -/
def read (documentation : Documentation) (label text : String) :
    Except DocumentationError Documentation :=
  match Xml.Element.read? text with
  | none => .error (.invalidXml label)
  | some root => .ok ((members root).foldl enter documentation)

end Documentation

end TypeExport
