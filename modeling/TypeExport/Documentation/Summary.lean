import TypeExport.Text.Blank
import TypeExport.Text.Replace
import TypeExport.Xml.Node

/-!
# Summaries

The text of a summary is the content of its element with its markup kept.  Authors indent the
lines between the tags, and that indentation is not part of the text.

* `dedent` — lines without their common indentation.
* `dropBlankEnds` — lines without blank ones at both ends.
* `summaryText` — the text of a summary.
-/

namespace TypeExport.Documentation

open TypeExport.Text

/-- The width of the common indentation: the end tag stands behind it if the last of several lines
is blank. -/
def commonIndent (lines : List (List Char)) : Nat :=
  match lines with
  | _ :: _ :: _ =>
    match lines.getLast? with
    | some last => if isBlankText last then last.length else 0
    | none => 0
  | _ => 0

/-- A line without the common indentation, or without any if it is not indented that far. -/
def dedentLine (indent : Nat) (line : List Char) : List Char :=
  let margin := line.take indent
  if !margin.isEmpty && isBlankText margin then line.drop indent else trimLeft line

/-- Lines without their common indentation. -/
def dedent (lines : List (List Char)) : List (List Char) :=
  lines.map (dedentLine (commonIndent lines))

/-- Lines without the blank ones at both ends. -/
def dropBlankEnds (lines : List (List Char)) : List (List Char) :=
  ((lines.dropWhile isBlankText).reverse.dropWhile isBlankText).reverse

/-- The lines of a text. -/
def lines (text : List Char) : List (List Char) :=
  (replaceAll ['\r', '\n'] ['\n'] text).splitOn '\n'

/-- The text of a summary. -/
def summaryText (summary : Xml.Element) : String :=
  .ofList (['\n'].intercalate ((dropBlankEnds (dedent (lines summary.inner))).map trimRight))

end TypeExport.Documentation
