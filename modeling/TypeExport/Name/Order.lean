import TypeExport.Text.Case

/-!
# Order of names

Names are sorted alphabetically whatever their case; of two names that differ only in case, the
one in lower case comes first.

* `SortKey`, `sortKey` — what names are compared by.
* `sortByName` — sort anything by a name; equal keys keep their order.
-/

namespace TypeExport.Name

/-- What names are compared by: the name without regard to case, then the name with the case of
every letter changed, which puts small letters before capitals. -/
structure SortKey where
  folded : String
  swapped : String
deriving DecidableEq, Repr

/-- The key of a name. -/
def sortKey (name : String) : SortKey where
  folded := .ofList (Text.fold name.toList)
  swapped := .ofList (Text.swap name.toList)

/-- One key does not come after another; texts compare by code point. -/
def SortKey.le (a b : SortKey) : Bool :=
  decide (a.folded < b.folded) || (a.folded == b.folded && decide (a.swapped ≤ b.swapped))

/-- Sort by name. -/
def sortByName {α : Type} (name : α → String) (items : List α) : List α :=
  let keyed := items.map fun item => (sortKey (name item), item)
  (keyed.mergeSort fun a b => a.1.le b.1).map (·.2)

end TypeExport.Name
