import TypeExport.SourceFile
import Mathlib.Data.String.Basic
import Mathlib.Tactic.Common

/-!
# Using directives

Texts are put in order one by one, each of them once, and grouping namespaces by their first
segments only divides the list.

* `OrdersTexts`, `OrdersTexts.ne` — an order by which texts can be sorted.
* `mem_sortDistinct`, `pairwise_sortDistinct`, `nodup_sortDistinct` — sorted texts.
* `sortDistinct_congr` — they depend on nothing but which texts there are.
* `ordersTexts_bySpace` — the order of namespaces.
* `flatten_groupByRoot` — groups of namespaces.
-/

namespace TypeExport

/-! ### Sorted texts -/

/-- Of two different texts exactly one comes before the other. -/
structure OrdersTexts (before : String → String → Bool) : Prop where
  irrefl : ∀ a, before a a = false
  trans : ∀ {a b c}, before a b → before b c → before a c
  total : ∀ {a b}, a ≠ b → before a b ∨ before b a

section

variable {before : String → String → Bool} {text item : String} {texts : List String}

/-- Texts of which one comes before the other are different. -/
theorem OrdersTexts.ne (hbefore : OrdersTexts before) {a b : String} (h : before a b = true) :
    a ≠ b := by
  rintro rfl
  rw [hbefore.irrefl] at h
  exact Bool.false_ne_true h

/-- A text that is inserted joins those that are there. -/
theorem mem_insertDistinct :
    text ∈ insertDistinct before item texts ↔ text = item ∨ text ∈ texts := by
  induction texts with
  | nil => simp [insertDistinct]
  | cons first rest ih =>
    unfold insertDistinct
    split
    · next heq => simp [heq]
    · split
      · exact List.mem_cons
      · rw [List.mem_cons, ih, List.mem_cons]
        exact or_left_comm

/-- Sorting keeps the texts. -/
theorem mem_sortDistinct : text ∈ sortDistinct before texts ↔ text ∈ texts := by
  induction texts with
  | nil => exact Iff.rfl
  | cons first rest ih =>
    show text ∈ insertDistinct before first (sortDistinct before rest) ↔ _
    rw [mem_insertDistinct, ih, List.mem_cons]

/-- A text is inserted at its place in the order. -/
theorem pairwise_insertDistinct (hbefore : OrdersTexts before)
    (h : texts.Pairwise fun a b => before a b = true) :
    (insertDistinct before item texts).Pairwise fun a b => before a b = true := by
  induction texts with
  | nil => exact List.pairwise_singleton _ item
  | cons first rest ih =>
    obtain ⟨hfirst, hrest⟩ := List.pairwise_cons.mp h
    unfold insertDistinct
    by_cases hsame : item = first
    · rw [if_pos hsame]
      exact h
    · rw [if_neg hsame]
      by_cases hitem : before item first = true
      · rw [if_pos hitem]
        refine List.pairwise_cons.mpr ⟨fun other hother => ?_, h⟩
        rcases List.mem_cons.mp hother with rfl | hother
        · exact hitem
        · exact hbefore.trans hitem (hfirst other hother)
      · -- The item is put behind the first text, which it does not precede.
        rw [if_neg hitem]
        refine List.pairwise_cons.mpr ⟨fun other hother => ?_, ih hrest⟩
        rcases mem_insertDistinct.mp hother with rfl | hother
        · exact (hbefore.total hsame).resolve_left hitem
        · exact hfirst other hother

/-- Sorted texts stand in order. -/
theorem pairwise_sortDistinct (hbefore : OrdersTexts before) (texts : List String) :
    (sortDistinct before texts).Pairwise fun a b => before a b = true := by
  induction texts with
  | nil => exact .nil
  | cons first rest ih => exact pairwise_insertDistinct hbefore ih

/-- Sorted texts repeat nothing. -/
theorem nodup_sortDistinct (hbefore : OrdersTexts before) (texts : List String) :
    (sortDistinct before texts).Nodup :=
  (pairwise_sortDistinct hbefore texts).imp hbefore.ne

/-- **Sorted texts** depend on which texts there are, and not on their order or how often they
come. -/
theorem sortDistinct_congr (hbefore : OrdersTexts before) {texts' : List String}
    (h : ∀ text, text ∈ texts' ↔ text ∈ texts) :
    sortDistinct before texts' = sortDistinct before texts := by
  have hperm : (sortDistinct before texts').Perm (sortDistinct before texts) := by
    refine (List.perm_ext_iff_of_nodup (nodup_sortDistinct hbefore texts')
      (nodup_sortDistinct hbefore texts)).mpr fun text => ?_
    rw [mem_sortDistinct, mem_sortDistinct, h]
  refine List.Perm.eq_of_pairwise (fun a b _ _ hab hba => ?_)
    (pairwise_sortDistinct hbefore texts') (pairwise_sortDistinct hbefore texts) hperm
  -- Two texts that come before one another would come before themselves.
  exact absurd rfl (hbefore.ne (hbefore.trans hab hba))

end

/-! ### Orders -/

/-- The order by code points is one of texts. -/
theorem ordersTexts_byCodePoint : OrdersTexts byCodePoint where
  irrefl text := decide_eq_false (String.lt_irrefl text)
  trans hab hbc := by
    simp only [byCodePoint, decide_eq_true_eq] at hab hbc ⊢
    exact String.lt_trans hab hbc
  total hne := by
    simp only [byCodePoint, decide_eq_true_eq]
    exact lt_or_gt_of_ne hne

/-- Texts with a property may come before all others. -/
theorem ordersTexts_first {before : String → String → Bool} (hbefore : OrdersTexts before)
    (isFirst : String → Bool) :
    OrdersTexts fun a b => if isFirst a == isFirst b then before a b else isFirst a where
  irrefl text := by simp [hbefore.irrefl]
  trans {a b c} hab hbc := by
    cases ha : isFirst a <;> cases hb : isFirst b <;> cases hc : isFirst c <;>
      simp only [ha, hb, hc, beq_self_eq_true, if_true, Bool.false_eq_true, reduceCtorEq,
        beq_iff_eq, if_false] at hab hbc ⊢
    · exact hbefore.trans hab hbc
    · exact hbefore.trans hab hbc
  total {a b} hne := by
    cases ha : isFirst a <;> cases hb : isFirst b <;>
      simp [hbefore.total hne]

/-- Namespaces are sorted with those of the system first. -/
theorem ordersTexts_bySpace : OrdersTexts bySpace :=
  ordersTexts_first ordersTexts_byCodePoint isSystemSpace

/-! ### Groups -/

/-- Grouping divides a list of namespaces. -/
theorem flatten_groupByRoot (spaces : List String) : (groupByRoot spaces).flatten = spaces := by
  induction spaces with
  | nil => rfl
  | cons space rest ih =>
    -- A namespace joins the group behind it, or begins one.
    rw [groupByRoot]
    split
    · next next group groups hgroups =>
      rw [hgroups] at ih
      split
      · rw [← ih]
        rfl
      · rw [← ih]
        rfl
    · rw [List.flatten_cons, ih]
      rfl

end TypeExport
