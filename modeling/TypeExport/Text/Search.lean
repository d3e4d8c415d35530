/-!
# Searching a text

* `behind?` — what follows a fixed beginning.
* `around?` — what stands before and behind the first occurrence of a pattern.
-/

namespace TypeExport.Text

/-- The rest of a text behind a fixed beginning. -/
def behind? (beginning text : List Char) : Option (List Char) :=
  if beginning.isPrefixOf text then some (text.drop beginning.length) else none

/-- What stands before the first occurrence of a pattern, which is not empty, and what stands
behind it. -/
def around? (pattern : List Char) : List Char → Option (List Char × List Char)
  | [] => none
  | c :: rest =>
    match behind? pattern (c :: rest) with
    | some behind => some ([], behind)
    | none => (around? pattern rest).map fun (before, behind) => (c :: before, behind)

/-- The pattern, which is not empty, occurs in the text. -/
def occurs (pattern text : List Char) : Bool :=
  (around? pattern text).isSome

end TypeExport.Text
