import TypeExport.Name.Casing
import TypeExport.Text.Search

/-!
# Documentation markup

Documentation text marks code and references to other elements.  TypeScript comments have marks
of their own.

* `toTypeScript` — code between backticks, and a reference as a link or as its text.
* `selfClosingReference`, `pairedReference` — the two forms of a reference.
* `linkTo` — what stands for a reference.
-/

namespace TypeExport.Documentation

open TypeExport.Text

/-- The target of a reference at the head of a text, and the text behind the blanks that follow
it. -/
def referenceTarget? (text : List Char) : Option (List Char × List Char) := do
  let afterName ← behind? "<see".toList text
  let afterBlanks := trimLeft afterName
  if afterBlanks.length = afterName.length then none
  else
    let afterQuote ← behind? "cref=\"".toList afterBlanks
    let target := afterQuote.takeWhile (· ≠ '"')
    let rest ← behind? ['"'] (afterQuote.drop target.length)
    if target.isEmpty then none else some (target, trimLeft rest)

/-- What stands for a reference: a link to the member if the target is a documentation id, which
starts with a letter and a colon, and has an owner; otherwise the target itself.  The names of
fields keep their case. -/
def linkTo (target : List Char) : List Char :=
  match target with
  | kind :: ':' :: name =>
    match (name.splitOn '.').reverse with
    | member :: owner :: _ =>
      let memberName := if kind = 'F' then member else Name.camelCaseChars member
      "\x7b@link ".toList ++ owner ++ ['.'] ++ memberName ++ ['}']
    | _ => target
  | _ => target

/-- A reference without text of its own. -/
def selfClosingReference (text : List Char) : Option Found := do
  let (target, afterBlanks) ← referenceTarget? text
  let rest ← behind? "/>".toList afterBlanks
  return ⟨text.length - rest.length, linkTo target⟩

/-- A reference that encloses its text, which holds no other mark. -/
def pairedReference (text : List Char) : Option Found := do
  let (_, afterBlanks) ← referenceTarget? text
  let inside ← behind? ['>'] afterBlanks
  let label := inside.takeWhile (· ≠ '<')
  let rest ← behind? "</see>".toList (inside.drop label.length)
  return ⟨text.length - rest.length, label⟩

/-- Write code marks as backticks. -/
def markCode (text : List Char) : List Char :=
  replaceAll "</c>".toList ['\x60'] (replaceAll "<c>".toList ['\x60'] text)

/-- Documentation text with the marks of TypeScript comments. -/
def toTypeScript (text : String) : String :=
  .ofList (substitute pairedReference (substitute selfClosingReference (markCode text.toList)))

end TypeExport.Documentation
