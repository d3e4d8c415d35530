import TypeExport.Text.Blank
import Mathlib.Data.List.DropRight
import Mathlib.Tactic.Common

/-!
# Lines and the blanks around them

A text in pieces between separators, and texts without the blanks at their ends.

* `mem_of_mem_splitOn`, `notMem_of_mem_splitOn` — what the pieces of a text consist of.
* `splitOn_induction` — a text is its first piece, a separator and the others, or all one piece.
* `mem_of_mem_intercalate`, `flatMap_intercalate` — joined texts, character by character.
* `splitOn_ended`, `endedLines?`, `endedLines?_flatMap` — lines that are ended one by one are read
  back.
* `trimRight_append`, `trimRight_idem`, `trimRight_trimLeft`, `exists_trimRight`, `exists_trim` — a
  text and the blanks at its ends.
-/

namespace TypeExport.Text

/-! ### Pieces -/

section

variable {separator c : Char} {text piece : List Char}

/-- A piece consists of characters of the text other than the separator. -/
theorem mem_and_ne_of_mem_splitOn (hpiece : piece ∈ text.splitOn separator) (hc : c ∈ piece) :
    c ∈ text ∧ c ≠ separator := by
  induction text generalizing piece with
  | nil =>
    rw [List.splitOn_nil, List.mem_singleton] at hpiece
    subst hpiece
    cases hc
  | cons d text ih =>
    rw [List.splitOn_cons_eq_if_modifyHead] at hpiece
    split at hpiece
    · obtain rfl | hpiece := List.mem_cons.mp hpiece
      · cases hc
      · exact (ih hpiece hc).imp_left (List.mem_cons_of_mem d)
    · next hd =>
      -- The character joins the first piece of the rest.
      cases hpieces : text.splitOn separator with
      | nil => exact absurd hpieces (List.splitOn_ne_nil separator text)
      | cons first pieces =>
        rw [hpieces] at hpiece ih
        obtain rfl | hpiece := List.mem_cons.mp hpiece
        · obtain rfl | hc := List.mem_cons.mp hc
          · exact ⟨List.mem_cons_self, mt beq_iff_eq.mpr hd⟩
          · exact (ih List.mem_cons_self hc).imp_left (List.mem_cons_of_mem d)
        · exact (ih (List.mem_cons_of_mem first hpiece) hc).imp_left (List.mem_cons_of_mem d)

/-- The characters of a piece are those of the text. -/
theorem mem_of_mem_splitOn (hpiece : piece ∈ text.splitOn separator) (hc : c ∈ piece) : c ∈ text :=
  (mem_and_ne_of_mem_splitOn hpiece hc).1

/-- No piece has the separator. -/
theorem notMem_of_mem_splitOn (hpiece : piece ∈ text.splitOn separator) : separator ∉ piece :=
  fun hc => (mem_and_ne_of_mem_splitOn hpiece hc).2 rfl

/-- What holds of texts in one piece, and of a piece in front of a text of which it holds, holds of
all texts. -/
theorem splitOn_induction (separator : Char) {motive : List Char → Prop}
    (single : ∀ text, separator ∉ text → motive text)
    (cons : ∀ first rest, separator ∉ first → motive rest → motive (first ++ separator :: rest))
    (text : List Char) : motive text := by
  induction hlength : text.length using Nat.strong_induction_on generalizing text with
  | _ length ih =>
    by_cases h : separator ∈ text
    · obtain ⟨first, rest, rfl, hfirst⟩ := List.eq_append_cons_of_mem h
      have hshorter : rest.length < length := by
        rw [← hlength, List.length_append, List.length_cons]
        omega
      exact cons first rest hfirst (ih _ hshorter rest rfl)
    · exact single text h

end

/-- What is in joined lists is in the separator or in a list. -/
theorem mem_of_mem_intercalate {α : Type} {separator : List α} {items : List (List α)} {a : α}
    (h : a ∈ separator.intercalate items) : a ∈ separator ∨ ∃ item ∈ items, a ∈ item := by
  induction items with
  | nil => cases h
  | cons first items ih =>
    -- A separator only stands between two items.
    cases items with
    | nil =>
      rw [List.intercalate_singleton] at h
      exact .inr ⟨first, List.mem_cons_self, h⟩
    | cons next items =>
      rw [List.intercalate_cons_cons, List.mem_append, List.mem_append] at h
      obtain (hfirst | hseparator) | hothers := h
      · exact .inr ⟨first, List.mem_cons_self, hfirst⟩
      · exact .inl hseparator
      · refine (ih hothers).imp_right fun ⟨item, hitem, hin⟩ => ?_
        exact ⟨item, List.mem_cons_of_mem _ hitem, hin⟩

/-- What characters become, joined texts become part by part. -/
theorem flatMap_intercalate {α β : Type} (f : α → List β) (separator : List α)
    (items : List (List α)) :
    (separator.intercalate items).flatMap f
      = (separator.flatMap f).intercalate (items.map (List.flatMap f)) := by
  induction items with
  | nil => rfl
  | cons item items ih =>
    cases items with
    | nil => simp
    | cons next items =>
      rw [List.intercalate_cons_cons, List.flatMap_append, List.flatMap_append, ih]
      simp only [List.map_cons, List.intercalate_cons_cons]

/-- Items that are ended one by one are the pieces of the whole, up to the last one. -/
theorem splitOn_ended {α : Type} [BEq α] [LawfulBEq α] {separator : α} {items : List (List α)}
    (h : ∀ item ∈ items, separator ∉ item) :
    (items.flatMap (· ++ [separator])).splitOn separator = items ++ [[]] := by
  induction items with
  | nil => exact List.splitOn_nil separator
  | cons item items ih =>
    rw [List.forall_mem_cons] at h
    rw [List.flatMap_cons, List.append_assoc, List.singleton_append,
      List.splitOn_append_cons_self_of_not_mem h.1, ih h.2, List.cons_append]

/-- The lines of a text, if each of them is ended. -/
def endedLines? (text : List Char) : Option (List (List Char)) :=
  let lines := text.splitOn '\n'
  if lines.getLast? = some [] then some lines.dropLast else none

/-- **Lines** that are ended are read back. -/
theorem endedLines?_flatMap {lines : List (List Char)} (h : ∀ line ∈ lines, '\n' ∉ line) :
    endedLines? (lines.flatMap (· ++ ['\n'])) = some lines := by
  simp [endedLines?, splitOn_ended h]

/-! ### Blanks -/

variable {text : List Char}

/-- Trimming at the right drops the blanks from the end. -/
theorem trimRight_eq (text : List Char) : trimRight text = text.rdropWhile isBlank := rfl

/-- Nothing is left exactly of a blank text. -/
theorem trimRight_eq_nil_iff : trimRight text = [] ↔ isBlankText text = true := by
  rw [trimRight_eq, List.rdropWhile_eq_nil_iff, isBlankText, List.all_eq_true]

/-- A trimmed text is trimmed already. -/
theorem trimRight_idem (text : List Char) : trimRight (trimRight text) = trimRight text :=
  List.rdropWhile_idempotent isBlank text

/-- Nothing but blanks stands behind a trimmed text. -/
theorem exists_trimRight (text : List Char) :
    ∃ blanks, text = trimRight text ++ blanks ∧ ∀ c ∈ blanks, isBlank c = true :=
  ⟨text.rtakeWhile isBlank, List.rdropWhile_append_rtakeWhile.symm,
    fun _ hc => List.mem_rtakeWhile_imp hc⟩

/-- Nothing but blanks stands around a trimmed text. -/
theorem exists_trim (text : List Char) :
    ∃ before behind, text = before ++ trim text ++ behind ∧
      (∀ c ∈ before, isBlank c = true) ∧ ∀ c ∈ behind, isBlank c = true := by
  obtain ⟨behind, hbehind, hblank⟩ := exists_trimRight (trimLeft text)
  refine ⟨text.takeWhile isBlank, behind, ?_, fun _ hc => List.mem_takeWhile_imp hc, hblank⟩
  rw [List.append_assoc]
  exact (List.takeWhile_append_dropWhile (p := isBlank)).symm.trans (congrArg _ hbehind)

/-- A trimmed text does not end with a blank. -/
theorem getLast?_trimRight {c : Char} (h : (trimRight text).getLast? = some c) :
    isBlank c = false := by
  have hne : text.rdropWhile isBlank ≠ [] := by
    intro hnil
    rw [trimRight_eq, hnil] at h
    cases h
  have hlast := List.rdropWhile_last_not isBlank text hne
  rw [trimRight_eq, List.getLast?_eq_some_getLast hne, Option.some.injEq] at h
  rwa [h, Bool.not_eq_true] at hlast

/-- A text behind another is trimmed unless there is nothing in it. -/
theorem trimRight_append (front text : List Char) :
    trimRight (front ++ text)
      = if isBlankText text then trimRight front else front ++ trimRight text := by
  have hall : (text.reverse.dropWhile isBlank).isEmpty = isBlankText text := by
    rw [Bool.eq_iff_iff, List.isEmpty_iff, ← trimRight_eq_nil_iff, trimRight,
      List.reverse_eq_nil_iff]
  rw [trimRight, List.reverse_append, List.dropWhile_append, hall]
  split
  · rfl
  · rw [List.reverse_append, List.reverse_reverse, trimRight]

/-- Trimming at the left keeps a text blank, or not blank. -/
theorem isBlankText_trimLeft (text : List Char) :
    isBlankText (trimLeft text) = isBlankText text := by
  have hparts : text.takeWhile isBlank ++ trimLeft text = text := List.takeWhile_append_dropWhile
  have hall : isBlankText (text.takeWhile isBlank) = true := List.all_takeWhile
  calc isBlankText (trimLeft text)
      = (isBlankText (text.takeWhile isBlank) && isBlankText (trimLeft text)) := by
        rw [hall, Bool.true_and]
    _ = isBlankText (text.takeWhile isBlank ++ trimLeft text) := List.all_append.symm
    _ = isBlankText text := congrArg isBlankText hparts

/-- A text without blanks at its end has none without those in front of it. -/
theorem trimRight_trimLeft (h : trimRight text = text) :
    trimRight (trimLeft text) = trimLeft text := by
  have hparts : text.takeWhile isBlank ++ trimLeft text = text := List.takeWhile_append_dropWhile
  cases hblank : isBlankText (trimLeft text) with
  | true =>
    rw [isBlankText_trimLeft, ← trimRight_eq_nil_iff, h] at hblank
    rw [hblank]
    rfl
  | false =>
    rw [← hparts, trimRight_append, hblank, if_neg Bool.false_ne_true, hparts] at h
    exact List.append_cancel_left (h.trans hparts.symm)

/-- What is left by trimming was there. -/
theorem mem_of_mem_trimRight {c : Char} (h : c ∈ trimRight text) : c ∈ text :=
  (List.rdropWhile_prefix isBlank text).subset h

end TypeExport.Text
