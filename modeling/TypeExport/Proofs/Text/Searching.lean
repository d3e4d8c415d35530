import TypeExport.Proofs.Text.Lines
import TypeExport.Proofs.Text.Replacing
import TypeExport.Text.Search
import Mathlib.Algebra.GroupWithZero.Nat
import Mathlib.Data.List.TakeWhile

/-!
# Texts within texts

What stands in front of a character or behind a fixed beginning, and how often a text occurs in
another.  A pair of characters may also arise where two texts meet.

* `takeWhile_ne_append_cons`, `dropWhile_ne_append_cons` — a text parted at a character.
* `behind?_append`, `behind?_eq_none` — a text behind its beginning.
* `around?_append` — a text around a pattern.
* `occurrences`, `occurrences_eq_zero_iff` — how often a text occurs.
* `occurrences_append`, `not_infix_append` — pairs of characters in two texts, and where they meet.
* `occurrences_parted`, `occurrences_splitOn`, `occurrences_ended`, `occurrences_trimRight`,
  `Replaced.occurrences_eq` — what pieces, trimmed texts and replacements keep of them.
-/

namespace TypeExport.Text

/-! ### Up to a character -/

section

variable {mark : Char} {front : List Char}

/-- A text without a mark differs from it at every place. -/
theorem decide_ne_of_notMem (h : mark ∉ front) : ∀ c ∈ front, decide (c ≠ mark) = true := by
  intro c hc
  rw [decide_eq_true_iff]
  exact fun heq => h (heq ▸ hc)

/-- A text without the mark is taken as a whole. -/
theorem takeWhile_ne_of_notMem (h : mark ∉ front) : front.takeWhile (· ≠ mark) = front :=
  List.takeWhile_eq_self_iff.mpr (decide_ne_of_notMem h)

/-- A text without the mark leaves nothing. -/
theorem dropWhile_ne_of_notMem (h : mark ∉ front) : front.dropWhile (· ≠ mark) = [] :=
  List.dropWhile_eq_nil_iff.mpr (decide_ne_of_notMem h)

/-- What stands before the first mark is taken. -/
theorem takeWhile_ne_append_cons (h : mark ∉ front) (rest : List Char) :
    (front ++ mark :: rest).takeWhile (· ≠ mark) = front := by
  rw [List.takeWhile_append_of_pos (decide_ne_of_notMem h), List.takeWhile_cons_of_neg (by simp),
    List.append_nil]

/-- From the first mark on, a text is left. -/
theorem dropWhile_ne_append_cons (h : mark ∉ front) (rest : List Char) :
    (front ++ mark :: rest).dropWhile (· ≠ mark) = mark :: rest := by
  rw [List.dropWhile_append_of_pos (decide_ne_of_notMem h), List.dropWhile_cons_of_neg (by simp)]

end

/-! ### Beginnings -/

/-- Behind its own beginning, a text goes on with its rest. -/
theorem behind?_append (beginning rest : List Char) :
    behind? beginning (beginning ++ rest) = some rest := by
  have hbegins : beginning.isPrefixOf (beginning ++ rest) = true :=
    List.isPrefixOf_iff_prefix.mpr (List.prefix_append beginning rest)
  rw [behind?, if_pos hbegins, List.drop_left]

/-- Nothing is behind what a text does not begin with. -/
theorem behind?_eq_none {beginning text : List Char} (h : ¬ beginning <+: text) :
    behind? beginning text = none :=
  if_neg (mt List.isPrefixOf_iff_prefix.mp h)

/-- A text begins otherwise if its first character is another one. -/
theorem not_prefix_of_ne {first c : Char} (h : c ≠ first) (pattern rest : List Char) :
    ¬ first :: pattern <+: c :: rest :=
  fun hprefix => h (List.cons_prefix_cons.mp hprefix).1.symm

/-- A pattern is found where it stands, if one of its characters occurs nowhere in front. -/
theorem around?_append (front back : List Char) {before : List Char} {mark : Char}
    (hfront : mark ∉ front) (hbefore : mark ∉ before) (behind : List Char) :
    around? (front ++ mark :: back) (before ++ (front ++ mark :: back ++ behind))
      = some (before, behind) := by
  induction before with
  | nil =>
    cases htext : front ++ mark :: back ++ behind with
    | nil => simp at htext
    | cons c rest => rw [List.nil_append, around?, ← htext, behind?_append]
  | cons c before ih =>
    have hnone : mark ∉ c :: before ++ front := by
      rw [List.mem_append, not_or]
      exact ⟨hbefore, hfront⟩
    -- An earlier occurrence would have its mark in the text in front of the mark.
    have hprefix :
        ¬ front ++ mark :: back <+: c :: before ++ (front ++ mark :: back ++ behind) := by
      intro hpattern
      have hmark : front ++ [mark] <+: c :: before ++ (front ++ mark :: back ++ behind) :=
        List.IsPrefix.trans ⟨back, by simp⟩ hpattern
      have hfirst : c :: before ++ front <+: c :: before ++ (front ++ mark :: back ++ behind) :=
        ⟨mark :: back ++ behind, by simp⟩
      have hshorter : (front ++ [mark]).length ≤ (c :: before ++ front).length := by
        simp only [List.length_append, List.length_cons, List.length_nil]
        omega
      have hin := List.prefix_of_prefix_length_le hmark hfirst hshorter
      exact hnone (hin.subset (List.mem_append_right front (List.mem_singleton_self mark)))
    rw [List.cons_append] at hprefix ⊢
    rw [around?, behind?_eq_none hprefix, ih fun h => hbefore (List.mem_cons_of_mem c h)]
    rfl

/-! ### Occurrences -/

/-- How often a text, which is not empty, occurs in another. -/
def occurrences (pattern : List Char) : List Char → Nat
  | [] => 0
  | c :: rest => (if pattern.isPrefixOf (c :: rest) then 1 else 0) + occurrences pattern rest

/-- A pattern has no occurrence exactly if it stands nowhere inside. -/
theorem occurrences_eq_zero_iff {pattern text : List Char} (hne : pattern ≠ []) :
    occurrences pattern text = 0 ↔ ¬ pattern <:+: text := by
  induction text with
  | nil => simp [occurrences, List.infix_nil, hne]
  | cons c rest ih =>
    rw [occurrences, List.infix_cons_iff, not_or, Nat.add_eq_zero_iff, ih,
      ← List.isPrefixOf_iff_prefix]
    split <;> simp_all

/-- A pattern does not occur where its first character does not. -/
theorem occurrences_of_notMem {first : Char} {rest text : List Char} (h : first ∉ text) :
    occurrences (first :: rest) text = 0 :=
  (occurrences_eq_zero_iff (List.cons_ne_nil _ _)).mpr fun hin =>
    h (hin.subset List.mem_cons_self)

/-! ### Pairs of characters -/

section

variable {first second : Char}

/-- A pair stands nowhere inside where its second character does not. -/
theorem not_infix_of_notMem (first : Char) {second : Char} {text : List Char}
    (h : second ∉ text) : ¬ [first, second] <:+: text := by
  intro hin
  exact h (hin.subset (List.mem_cons_of_mem _ List.mem_cons_self))

/-- A text begins with a pair if its first two characters are that pair. -/
theorem pair_isPrefixOf (c : Char) (rest : List Char) :
    [first, second].isPrefixOf (c :: rest) = true ↔ c = first ∧ rest.head? = some second := by
  rw [List.isPrefixOf_iff_prefix, List.cons_prefix_cons]
  cases rest with
  | nil => simp
  | cons d rest => simp [eq_comm]

/-- The count of a pair in two texts: those in each of them, and the one that may arise where they
meet. -/
theorem occurrences_append (left right : List Char) :
    occurrences [first, second] (left ++ right)
      = occurrences [first, second] left + occurrences [first, second] right
        + if left.getLast? = some first ∧ right.head? = some second then 1 else 0 := by
  induction left with
  | nil => simp [occurrences]
  | cons c left ih =>
    rw [List.cons_append, occurrences, occurrences, ih]
    simp only [pair_isPrefixOf]
    cases left with
    | nil => simp [occurrences]; omega
    | cons d left => simp; omega

/-- A pair of characters does not arise where two texts meet, unless it is divided there. -/
theorem not_infix_append {left right : List Char} (hleft : ¬ [first, second] <:+: left)
    (hright : ¬ [first, second] <:+: right)
    (hmeet : left.getLast? ≠ some first ∨ right.head? ≠ some second) :
    ¬ [first, second] <:+: left ++ right := by
  have hne : [first, second] ≠ [] := List.cons_ne_nil _ _
  rw [← occurrences_eq_zero_iff hne] at hleft hright ⊢
  rw [occurrences_append, hleft, hright, if_neg (not_and_or.mpr hmeet)]

/-- The count of a pair in two texts, if it does not arise where they meet. -/
theorem occurrences_append_of_ne {left right : List Char}
    (hmeet : left.getLast? ≠ some first ∨ right.head? ≠ some second) :
    occurrences [first, second] (left ++ right)
      = occurrences [first, second] left + occurrences [first, second] right := by
  rw [occurrences_append, if_neg (not_and_or.mpr hmeet), Nat.add_zero]

/-- A pair does not begin with another character. -/
theorem occurrences_cons_of_ne {c : Char} (h : c ≠ first) (rest : List Char) :
    occurrences [first, second] (c :: rest) = occurrences [first, second] rest := by
  rw [occurrences, if_neg, Nat.zero_add]
  rw [pair_isPrefixOf]
  exact fun hpair => h hpair.1

/-- Another character between two texts parts them. -/
theorem occurrences_parted {c : Char} (hfirst : c ≠ first) (hsecond : c ≠ second)
    (left right : List Char) :
    occurrences [first, second] (left ++ c :: right)
      = occurrences [first, second] left + occurrences [first, second] right := by
  have hmeet : (c :: right).head? ≠ some second := fun h => hsecond (Option.some.inj h)
  rw [occurrences_append_of_ne (.inr hmeet), occurrences_cons_of_ne hfirst]

/-- A pair without the separator stands in one of the pieces. -/
theorem occurrences_splitOn {separator : Char} (hfirst : separator ≠ first)
    (hsecond : separator ≠ second) (text : List Char) :
    ((text.splitOn separator).map (occurrences [first, second])).sum
      = occurrences [first, second] text := by
  induction text using splitOn_induction separator with
  | single text h => simp [List.splitOn_eq_singleton h]
  | cons front rest h ih =>
    rw [List.splitOn_append_cons_self_of_not_mem h, List.map_cons, List.sum_cons, ih,
      occurrences_parted hfirst hsecond]

/-- A pair without the separator stands in one of the items that are ended one by one. -/
theorem occurrences_ended {separator : Char} (hfirst : separator ≠ first)
    (hsecond : separator ≠ second) (items : List (List Char)) :
    occurrences [first, second] (items.flatMap (· ++ [separator]))
      = (items.map (occurrences [first, second])).sum := by
  induction items with
  | nil => rfl
  | cons item items ih =>
    rw [List.flatMap_cons, List.append_assoc, List.singleton_append,
      occurrences_parted hfirst hsecond, ih, List.map_cons, List.sum_cons]

/-- Blanks behind a text take no part in a pair without blanks. -/
theorem occurrences_append_blanks (hfirst : isBlank first = false)
    (hsecond : isBlank second = false) {blanks : List Char}
    (hblanks : ∀ c ∈ blanks, isBlank c = true) (text : List Char) :
    occurrences [first, second] (text ++ blanks) = occurrences [first, second] text := by
  have hnone : first ∉ blanks := fun h => Bool.false_ne_true (hfirst.symm.trans (hblanks _ h))
  have hmeet : blanks.head? ≠ some second := fun h =>
    Bool.false_ne_true (hsecond.symm.trans (hblanks _ (List.mem_of_mem_head? h)))
  rw [occurrences_append_of_ne (.inr hmeet), occurrences_of_notMem hnone, Nat.add_zero]

/-- Blanks in front hold no occurrence of a pair that begins with none. -/
theorem occurrences_blanks_append (hfirst : isBlank first = false) {blanks : List Char}
    (hblanks : ∀ c ∈ blanks, isBlank c = true) (text : List Char) :
    occurrences [first, second] (blanks ++ text) = occurrences [first, second] text := by
  have hnone : first ∉ blanks := fun h => Bool.false_ne_true (hfirst.symm.trans (hblanks _ h))
  have hmeet : blanks.getLast? ≠ some first := fun h => hnone (List.mem_of_getLast? h)
  rw [occurrences_append_of_ne (.inl hmeet), occurrences_of_notMem hnone, Nat.zero_add]

/-- Blanks at the end hold no part of a pair without blanks. -/
theorem occurrences_trimRight (hfirst : isBlank first = false) (hsecond : isBlank second = false)
    (text : List Char) :
    occurrences [first, second] (trimRight text) = occurrences [first, second] text := by
  obtain ⟨blanks, htext, hblanks⟩ := exists_trimRight text
  conv_rhs => rw [htext]
  exact (occurrences_append_blanks hfirst hsecond hblanks _).symm

/-- A replacement of other characters by other characters keeps all pairs. -/
theorem Replaced.occurrences_eq {pattern replacement text image : List Char}
    (h : Replaced pattern replacement text image)
    (hpattern : pattern ≠ [] ∧ first ∉ pattern ∧ second ∉ pattern)
    (hreplacement : replacement ≠ [] ∧ first ∉ replacement ∧ second ∉ replacement) :
    occurrences [first, second] image = occurrences [first, second] text := by
  have hother {part rest : List Char} (hpart : part ≠ [] ∧ first ∉ part ∧ second ∉ part) :
      occurrences [first, second] (part ++ rest) = occurrences [first, second] rest ∧
        (part ++ rest).head? ≠ some second := by
    obtain ⟨hne, hfirst, hsecond⟩ := hpart
    have hmeet : part.getLast? ≠ some first := fun h => hfirst (List.mem_of_getLast? h)
    rw [occurrences_append_of_ne (.inl hmeet), occurrences_of_notMem hfirst, Nat.zero_add,
      List.head?_append_of_ne_nil _ hne]
    exact ⟨rfl, fun h => hsecond (List.mem_of_mem_head? h)⟩
  -- Whether a pair begins at a kept character depends on the first one behind it.
  suffices hboth : occurrences [first, second] image = occurrences [first, second] text ∧
      (image.head? = some second ↔ text.head? = some second) from hboth.1
  induction h with
  | nil => exact ⟨rfl, Iff.rfl⟩
  | keep _ _ ih =>
    refine ⟨?_, by simp⟩
    simp only [occurrences, pair_isPrefixOf, ih.1, ih.2]
  | replace _ ih =>
    obtain ⟨hold, hhead⟩ := hother hpattern
    obtain ⟨hnew, hhead'⟩ := hother hreplacement
    rw [hold, hnew]
    exact ⟨ih.1, iff_of_false hhead' hhead⟩

end

end TypeExport.Text
