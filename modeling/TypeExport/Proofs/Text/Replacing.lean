import TypeExport.Text.Replace
import Mathlib.Data.List.Infix

/-!
# Replacement part by part

What replacement makes of a text that is put together from parts.  Each part may be looked at on its
own as long as no search finds something that begins in one part and ends in another.

* `substitute_cons_of_none`, `substitute_append_of_some` — one step of a replacement.
* `Rewrites` — a part becomes another text, whatever stands behind it.
* `occurrence?`, `replaceAll_eq` — the search for a fixed text.
* `Replaced`, `replaced_replaceAll` — replacing a fixed text from left to right without overlap.
* `Replaced.eq_of_notMem` — when nothing is replaced.
-/

namespace TypeExport.Text

section

variable {find : List Char → Option Found}

/-! ### One step -/

/-- Passing over characters that were taken leaves the text behind them. -/
theorem substituteFrom_eq (find : List Char → Option Found) (skip : Nat) (text : List Char) :
    substituteFrom find skip text = substitute find (text.drop skip) := by
  induction text generalizing skip with
  | nil => cases skip <;> simp [substitute, substituteFrom]
  | cons c text ih =>
    cases skip with
    | zero => rfl
    | succ skip => rw [substituteFrom, ih, List.drop_succ_cons]

/-- In no text nothing is substituted. -/
@[simp] theorem substitute_nil : substitute find [] = [] := rfl

/-- A character stays where the search finds nothing. -/
theorem substitute_cons_of_none {c : Char} {rest : List Char} (h : find (c :: rest) = none) :
    substitute find (c :: rest) = c :: substitute find rest := by
  rw [substitute, substituteFrom, h]
  rfl

/-- What the search finds is replaced, and the replacement goes on behind it. -/
theorem substitute_append_of_some {part image rest : List Char} (hne : part ≠ [])
    (h : find (part ++ rest) = some ⟨part.length, image⟩) :
    substitute find (part ++ rest) = image ++ substitute find rest := by
  obtain ⟨c, part, rfl⟩ := List.exists_cons_of_ne_nil hne
  rw [List.cons_append] at h ⊢
  rw [substitute, substituteFrom, h]
  simp only [List.length_cons, Nat.add_sub_cancel, substituteFrom_eq, List.drop_left]

/-! ### Parts -/

/-- A part of a text becomes another text, whatever stands behind it. -/
def Rewrites (find : List Char → Option Found) (part image : List Char) : Prop :=
  ∀ rest, substitute find (part ++ rest) = image ++ substitute find rest

namespace Rewrites

variable {part image part' image' : List Char}

/-- What a text is rewritten to is what substitution gives. -/
theorem substitute_eq (h : Rewrites find part image) : substitute find part = image := by
  simpa using h []

/-- No text is rewritten to none. -/
theorem nil : Rewrites find [] [] := fun _ => rfl

/-- Parts that are rewritten are rewritten side by side. -/
theorem append (h : Rewrites find part image) (h' : Rewrites find part' image') :
    Rewrites find (part ++ part') (image ++ image') := by
  intro rest
  rw [List.append_assoc, h, h', List.append_assoc]

/-- Parts in a list are rewritten side by side. -/
theorem flatMap {α : Type} (items : List α) {f g : α → List Char}
    (h : ∀ item ∈ items, Rewrites find (f item) (g item)) :
    Rewrites find (items.flatMap f) (items.flatMap g) := by
  induction items with
  | nil => exact nil
  | cons item items ih =>
    rw [List.forall_mem_cons] at h
    exact h.1.append (ih h.2)

/-- Parts that stay are joined by what their separator becomes. -/
theorem intercalate {separator joint : List Char} (hseparator : Rewrites find separator joint)
    {items : List (List Char)} (h : ∀ item ∈ items, Rewrites find item item) :
    Rewrites find (separator.intercalate items) (joint.intercalate items) := by
  induction items with
  | nil => exact nil
  | cons item items ih =>
    rw [List.forall_mem_cons] at h
    cases items with
    | nil => simpa using h.1
    | cons next items =>
      rw [List.intercalate_cons_cons, List.intercalate_cons_cons]
      exact (h.1.append hseparator).append (ih h.2)

/-- A character stays if nothing is found at it. -/
theorem cons {c : Char} (hnone : ∀ rest, find (c :: (part ++ rest)) = none)
    (h : Rewrites find part image) : Rewrites find (c :: part) (c :: image) := by
  intro rest
  rw [List.cons_append, substitute_cons_of_none (hnone rest), h, List.cons_append]

/-- Characters at which nothing is found stay. -/
theorem refl (h : ∀ c ∈ part, ∀ rest, find (c :: rest) = none) : Rewrites find part part := by
  induction part with
  | nil => exact nil
  | cons c part ih =>
    rw [List.forall_mem_cons] at h
    exact cons (fun rest => h.1 (part ++ rest)) (ih h.2)

/-- A part that is found as a whole. -/
theorem of_some (hne : part ≠ [])
    (h : ∀ rest, find (part ++ rest) = some ⟨part.length, image⟩) : Rewrites find part image :=
  fun rest => substitute_append_of_some hne (h rest)

end Rewrites

end

/-! ### Fixed texts -/

/-- Find a fixed text at the head of another. -/
def occurrence? (pattern replacement : List Char) (text : List Char) : Option Found :=
  if pattern.isPrefixOf text then some ⟨pattern.length, replacement⟩ else none

variable {pattern replacement : List Char}

/-- Replacing all occurrences substitutes for the occurrence at hand. -/
theorem replaceAll_eq (text : List Char) :
    replaceAll pattern replacement text = substitute (occurrence? pattern replacement) text := rfl

/-- A pattern occurs at its own beginning. -/
theorem occurrence?_append (rest : List Char) :
    occurrence? pattern replacement (pattern ++ rest) = some ⟨pattern.length, replacement⟩ :=
  if_pos (List.isPrefixOf_iff_prefix.mpr (List.prefix_append pattern rest))

/-- A pattern does not occur where the text does not begin with it. -/
theorem occurrence?_eq_none {text : List Char} (h : ¬ pattern <+: text) :
    occurrence? pattern replacement text = none :=
  if_neg (mt List.isPrefixOf_iff_prefix.mp h)

/-- A pattern is rewritten to its replacement. -/
theorem rewrites_pattern (hne : pattern ≠ []) :
    Rewrites (occurrence? pattern replacement) pattern replacement :=
  .of_some hne occurrence?_append

/-- From left to right, a text is replaced wherever it is met; what replaces it is not looked at
again. -/
inductive Replaced (pattern replacement : List Char) : List Char → List Char → Prop where
  | nil : Replaced pattern replacement [] []
  | keep {c : Char} {rest image : List Char} (h : ¬ pattern <+: c :: rest)
    (hrest : Replaced pattern replacement rest image) :
    Replaced pattern replacement (c :: rest) (c :: image)
  | replace {rest image : List Char} (hrest : Replaced pattern replacement rest image) :
    Replaced pattern replacement (pattern ++ rest) (replacement ++ image)

/-- **Replacement.** Replacing all occurrences of a text replaces them from left to right. -/
theorem replaced_replaceAll (hne : pattern ≠ []) (replacement text : List Char) :
    Replaced pattern replacement text (replaceAll pattern replacement text) := by
  -- An occurrence is skipped as a whole, so the induction is on the length and not on the list.
  induction hlength : text.length using Nat.strong_induction_on generalizing text with
  | _ length ih =>
    subst hlength
    by_cases hprefix : pattern <+: text
    · obtain ⟨rest, rfl⟩ := hprefix
      have hshorter : rest.length < (pattern ++ rest).length := by
        have hpos := List.length_pos_iff.mpr hne
        rw [List.length_append]
        omega
      rw [replaceAll_eq, rewrites_pattern hne rest, ← replaceAll_eq]
      exact .replace (ih _ hshorter rest rfl)
    · cases text with
      | nil => exact .nil
      | cons c rest =>
        rw [replaceAll_eq, substitute_cons_of_none (occurrence?_eq_none hprefix), ← replaceAll_eq]
        exact .keep hprefix (ih _ (Nat.lt_succ_self _) rest rfl)

variable {text image : List Char}

/-- Nothing was replaced if a character of the replacement is missing. -/
theorem Replaced.eq_of_notMem {c : Char} (h : Replaced pattern replacement text image)
    (hc : c ∈ replacement) (himage : c ∉ image) : image = text := by
  induction h with
  | nil => rfl
  | keep _ _ ih => rw [ih fun hin => himage (List.mem_cons_of_mem _ hin)]
  | replace _ _ => exact absurd (List.mem_append_left _ hc) himage

end TypeExport.Text
