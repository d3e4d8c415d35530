import TypeExport.Name.Casing
import TypeExport.Name.Order
import TypeExport.Name.Space
import TypeExport.Proofs.Text.Searching
import TypeExport.Reflection.Basic
import Mathlib.Tactic.Common

/-!
# Names

The parts of a dotted name, where the simple name of a type stands in its full name, and what is
sorted by names.

* `Name.lastSegment_qualified` — the last segment of a full name is that of the simple name.
* `Name.parentSpace_append_lastSegment` — a name with a dot in two parts.
* `Name.withoutArity_append` — a name without the number of its type parameters.
* `Name.behindDots` — the texts behind the dots of a text; a simple name is one of those of the full
  name or all of it (`Name.mem_behindDots_of_qualified`).
* `Name.mem_sortByName` — sorting keeps what is sorted.
-/

namespace TypeExport.Name

/-! ### The last segment -/

/-- Nothing before a dot belongs to the last segment. -/
theorem lastSegment_append (front name : String) :
    lastSegment (front ++ "." ++ name) = lastSegment name := by
  have hdot : (front ++ "." ++ name).toList.reverse
      = name.toList.reverse ++ '.' :: front.toList.reverse := by simp
  unfold lastSegment
  rw [hdot, List.takeWhile_append]
  split
  · next hall =>
    have hself := (List.takeWhile_prefix (fun c => decide (c ≠ '.'))).eq_of_length hall
    rw [hself, List.takeWhile_cons_of_neg (by decide), List.append_nil]
  · rfl

/-- A namespace before a name does not change its last segment. -/
theorem lastSegment_qualified (space? : Option String) (name : String) :
    lastSegment (qualified space? name) = lastSegment name := by
  unfold qualified
  split
  · rfl
  · split
    · rfl
    · exact lastSegment_append _ _

/-- A name without a dot is its own last segment. -/
theorem lastSegment_of_notMem {name : String} (h : '.' ∉ name.toList) :
    lastSegment name = name := by
  rw [lastSegment, Text.takeWhile_ne_of_notMem (mt List.mem_reverse.mp h), List.reverse_reverse,
    String.ofList_toList]

/-- The last segment is its own last segment. -/
theorem lastSegment_lastSegment (name : String) :
    lastSegment (lastSegment name) = lastSegment name := by
  simp only [lastSegment, String.toList_ofList, List.reverse_reverse, List.takeWhile_idem]

/-! ### What stands before the last segment -/

/-- The last segment has no dot. -/
theorem dot_notMem_lastSegment (name : String) : '.' ∉ (lastSegment name).toList := by
  intro hdot
  rw [lastSegment, String.toList_ofList, List.mem_reverse] at hdot
  have hkept := List.mem_takeWhile_imp hdot
  simp at hkept

/-- A name with a dot is its parent, a dot and its last segment. -/
theorem parentSpace_append_lastSegment {name : String} (h : '.' ∈ name.toList) :
    parentSpace name ++ "." ++ lastSegment name = name := by
  -- Both are cut at the last dot, which is the first one of the reversed name.
  obtain ⟨back, front, hname, hback⟩ := List.eq_append_cons_of_mem (List.mem_reverse.mpr h)
  have htext : name.toList = front.reverse ++ '.' :: back.reverse := by
    rw [← List.reverse_reverse name.toList, hname, List.reverse_append, List.reverse_cons]
    simp
  have hlast : lastSegment name = .ofList back.reverse := by
    rw [lastSegment, hname, Text.takeWhile_ne_append_cons hback]
  have hparent : parentSpace name = .ofList front.reverse := by
    rw [parentSpace, hname, Text.dropWhile_ne_append_cons hback]
    rfl
  apply String.toList_injective
  rw [hlast, hparent, htext]
  simp

/-- Nothing stands before a name without a dot. -/
theorem parentSpace_of_notMem {name : String} (h : '.' ∉ name.toList) : parentSpace name = "" := by
  rw [parentSpace, Text.dropWhile_ne_of_notMem (mt List.mem_reverse.mp h)]
  rfl

/-! ### Names without an arity -/

/-- A name without an arity mark stays as it is. -/
theorem withoutArity_of_notMem {name : String} (h : arityMark ∉ name.toList) :
    withoutArity name = name := by
  rw [withoutArity, Text.takeWhile_ne_of_notMem h, String.ofList_toList]

/-- What stands before the first arity mark is kept. -/
theorem withoutArity_append {front : String} (h : arityMark ∉ front.toList) (rest : String) :
    withoutArity (front ++ arityMark.toString ++ rest) = front := by
  have htext : (front ++ arityMark.toString ++ rest).toList
      = front.toList ++ arityMark :: rest.toList := by simp
  rw [withoutArity, htext, Text.takeWhile_ne_append_cons h, String.ofList_toList]

/-! ### Simple names within full names -/

/-- A namespace stands before all of a name. -/
theorem qualified_append (space? : Option String) (name rest : String) :
    qualified space? (name ++ rest) = qualified space? name ++ rest := by
  unfold qualified
  split
  · rfl
  · split
    · rfl
    · simp only [String.append_assoc]

/-- The characters of a name are in the qualified name. -/
theorem mem_qualified (space? : Option String) {name : String} {c : Char} (h : c ∈ name.toList) :
    c ∈ (qualified space? name).toList := by
  unfold qualified
  split
  · exact h
  · split
    · exact h
    · simp [h]

/-- The texts behind the dots of a text. -/
def behindDots : List Char → List (List Char)
  | [] => []
  | c :: rest => if c = '.' then rest :: behindDots rest else behindDots rest

/-- What stands behind a dot is among what stands behind the dots. -/
theorem mem_behindDots (front rest : List Char) : rest ∈ behindDots (front ++ '.' :: rest) := by
  induction front with
  | nil => simp [behindDots]
  | cons c front ih =>
    rw [List.cons_append, behindDots]
    split
    · exact List.mem_cons_of_mem _ ih
    · exact ih

/-- A simple name is the full name or stands behind one of its dots. -/
theorem mem_behindDots_of_qualified (space? : Option String) (name : String) :
    name = qualified space? name ∨ name.toList ∈ behindDots (qualified space? name).toList := by
  unfold qualified
  split
  · exact .inl rfl
  · next space =>
    split
    · exact .inl rfl
    · right
      have hdot : (space ++ "." ++ name).toList = space.toList ++ '.' :: name.toList := by simp
      rw [hdot]
      exact mem_behindDots _ _

/-! ### Order -/

/-- Sorting keeps the items. -/
theorem mem_sortByName {α : Type} (name : α → String) (items : List α) (item : α) :
    item ∈ sortByName name items ↔ item ∈ items := by
  simp [sortByName, List.mem_mergeSort]

/-- What holds of all items holds of the sorted ones, and the other way round. -/
theorem forall_mem_sortByName {α : Type} (name : α → String) (items : List α) (P : α → Prop) :
    (∀ item ∈ sortByName name items, P item) ↔ ∀ item ∈ items, P item := by
  simp only [mem_sortByName]

end TypeExport.Name
