import TypeExport.Documentation.Markup

/-!
# Comment blocks

Documentation text as a comment in generated code.  A text without anything but blanks gives no
comment.

* `commentLines?` — the lines of a text.
* `typeScriptComment`, `cSharpComment` — comment blocks, each line indented and ended.
* `deprecationMark` — the comment that marks a declaration as deprecated.
-/

namespace TypeExport

open Text

/-- The lines of a documentation text without the blanks around it, if it has any other
characters.  Three line breaks in a row separate paragraphs and become two. -/
def commentLines? (text : List Char) : Option (List (List Char)) :=
  if isBlankText text then none
  else
    let body := trim (replaceAll "\r\n".toList ['\n'] text)
    some ((replaceAll "\n\n\n".toList ['\n', '\n'] body).splitOn '\n')

/-- Spaces in front of a line. -/
def indentation (indent : Nat) : List Char :=
  List.replicate indent ' '

/-- The lines of a block, each behind a mark, without blanks at its end, and ended. -/
def markedLines (mark : List Char) (lines : List (List Char)) : List Char :=
  lines.flatMap fun line => trimRight (mark ++ line) ++ ['\n']

/-- The TypeScript comment of some lines: on one line if there is only one. -/
def typeScriptBlock (indent : Nat) : List (List Char) → List Char
  | [line] => indentation indent ++ "/** ".toList ++ line ++ " */\n".toList
  | lines =>
    indentation indent ++ "/**\n".toList
      ++ markedLines (indentation indent ++ " * ".toList) lines
      ++ indentation indent ++ " */\n".toList

/-- Documentation text as a TypeScript comment. -/
def typeScriptComment (text? : Option String) (indent : Nat := 0) : String :=
  match text? with
  | none => ""
  | some text =>
    match commentLines? (Documentation.toTypeScript text).toList with
    | none => ""
    | some lines => .ofList (typeScriptBlock indent lines)

/-- The C# comment of some lines. -/
def cSharpBlock (indent : Nat) (lines : List (List Char)) : List Char :=
  indentation indent ++ "/// <summary>\n".toList
    ++ markedLines (indentation indent ++ "/// ".toList) lines
    ++ indentation indent ++ "/// </summary>\n".toList

/-- Documentation text as a C# comment. -/
def cSharpComment (text? : Option String) (indent : Nat := 0) : String :=
  match text? with
  | none => ""
  | some text =>
    match commentLines? text.toList with
    | none => ""
    | some lines => .ofList (cSharpBlock indent lines)

/-- The comment that marks a declaration as deprecated, with the reason if one is given. -/
def deprecationMark (message? : Option String) (indent : Nat) : String :=
  let reason := message?.getD ""
  String.ofList (indentation indent) ++ "/** @deprecated " ++ (if reason = "" then "" else reason ++ " ")
    ++ "*/\n"

end TypeExport
