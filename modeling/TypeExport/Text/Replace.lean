/-!
# Replacing parts of a text

Replacement runs once over a text from left to right.  At each place a search may take some
characters and offer others for them; it then goes on behind the characters taken, so the parts
found never overlap and text that was put in is not searched again.

* `Found` — what a search takes at the head of a text, and what stands for it.
* `substitute` — replace every part that a search finds.
* `replaceAll` — replace every occurrence of a fixed text.
-/

namespace TypeExport.Text

/-- A search found something at the head of a text: the number of characters it takes, which is
at least one, and the characters that stand for them. -/
structure Found where
  length : Nat
  replacement : List Char
deriving DecidableEq, Repr

/-- Replace what `find` finds, after passing over `skip` characters that were already taken. -/
def substituteFrom (find : List Char → Option Found) : Nat → List Char → List Char
  | _, [] => []
  | skip + 1, _ :: rest => substituteFrom find skip rest
  | 0, c :: rest =>
    match find (c :: rest) with
    | some found => found.replacement ++ substituteFrom find (found.length - 1) rest
    | none => c :: substituteFrom find 0 rest

/-- Replace every part that `find` finds, from left to right and without overlap. -/
def substitute (find : List Char → Option Found) (text : List Char) : List Char :=
  substituteFrom find 0 text

/-- Replace every occurrence of `pattern`, which is not empty, by `replacement`. -/
def replaceAll (pattern replacement text : List Char) : List Char :=
  substitute
    (fun rest => if pattern.isPrefixOf rest then some ⟨pattern.length, replacement⟩ else none) text

end TypeExport.Text
