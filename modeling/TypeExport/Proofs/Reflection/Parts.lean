import TypeExport.Reflection.Name
import Mathlib.Tactic.Common

/-!
# Parts of a type

The types that a type is built from, and when two types count as the same.

* `TypeTree.parts` — a type with all the types that it is built from.
* `Identity.same_iff_eq` — comparing identities decides their equality.
-/

namespace TypeExport

namespace TypeTree

mutual

/-- A type with all the types that it is built from: its element type, its arguments and their
parts.  A repetition only points back to a part, so it is none itself. -/
def parts : TypeTree → List TypeTree
  | type facts arguments => type facts arguments :: partsAll arguments
  | withElement facts element arguments =>
    withElement facts element arguments :: (parts element ++ partsAll arguments)
  | repeated _ _ => []

/-- The parts of several types. -/
def partsAll : List TypeTree → List TypeTree
  | [] => []
  | tree :: rest => parts tree ++ partsAll rest

end

end TypeTree

mutual

/-- Comparing identities decides their equality. -/
theorem Identity.same_iff_eq (a b : Identity) : a.same b = true ↔ a = b := by
  cases a with
  | array element =>
    cases b with
    | array element' => simp [Identity.same, Identity.same_iff_eq element element']
    | named fullName' arguments' => simp [Identity.same]
  | named fullName arguments =>
    cases b with
    | array element' => simp [Identity.same]
    | named fullName' arguments' =>
      simp [Identity.same, Identity.allSame_iff_eq arguments arguments']

/-- Lists of identities are compared one by one. -/
theorem Identity.allSame_iff_eq (as bs : List Identity) :
    Identity.allSame as bs = true ↔ as = bs := by
  cases as with
  | nil => cases bs <;> simp [Identity.allSame]
  | cons a as =>
    cases bs with
    | nil => simp [Identity.allSame]
    | cons b bs =>
      simp [Identity.allSame, Identity.same_iff_eq a b, Identity.allSame_iff_eq as bs]

end

end TypeExport
