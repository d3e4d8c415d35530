import TypeExport.Text.Replace

/-!
# Line ends

A line may end in a line feed, a carriage return, or both.

* `joinLineEnds` — every line end as a line feed.
* `withoutLastBreak` — a text without the line feed at its end.
-/

namespace TypeExport.Text

/-- Every line end as a single line feed. -/
def joinLineEnds (text : List Char) : List Char :=
  replaceAll ['\r'] ['\n'] (replaceAll ['\r', '\n'] ['\n'] text)

/-- A text without the line feed at its end. -/
def withoutLastBreak (text : List Char) : List Char :=
  if text.getLast? = some '\n' then text.dropLast else text

end TypeExport.Text
