/-!
# Sets of characters given by their borders

A property of characters changes at few code points.  A `CodeSet` lists, in ascending order, the
code points at which membership changes: the first border enters the set, the second leaves it,
and so on.

* `CodeSet.contains` — membership of a code point.
-/

namespace TypeExport.Text

/-- The ascending code points at which membership changes, starting outside. -/
structure CodeSet where
  borders : List Nat

namespace CodeSet

/-- Membership after the borders up to `code` have been crossed, starting from `inside`. -/
def crossed (inside : Bool) (code : Nat) : List Nat → Bool
  | [] => inside
  | border :: rest => if code < border then inside else crossed (!inside) code rest

/-- A code point belongs to the set when an odd number of borders is at or below it. -/
def contains (set : CodeSet) (code : Nat) : Bool :=
  crossed false code set.borders

end CodeSet

end TypeExport.Text
