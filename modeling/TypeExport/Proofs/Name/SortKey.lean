import TypeExport.Proofs.Name.Order
import TypeExport.Proofs.Text.Respelled

/-!
# Which names have one key, and which come first

The key of a name keeps the name folded and the name with its case changed.  From the two together
a name can be told but for its spelling, since some letters have the same images as others; and two
names that first differ in the case of a letter are ordered by that letter in the other case.

* `Text.swapWithin` — one letter of a text in the other case.
* `Text.map_unfinal_swap`, `Text.swap_of_no_sigma` — the case of a text changed letter by letter.
* `Name.spelled` — what the key tells of a name.
* `Name.spelled_eq_of_sortKey_eq`, `Name.sortKey_eq_of_spelled_eq` — equal keys.
* `Name.sortKey_le_iff_of_casePair` — names that first differ in the case of a letter.
* `Name.sortKey_orders` — what the key makes of the order of names.
-/

namespace TypeExport

/-! ### Texts in the other case -/

namespace Text

/-- A letter in the other case between `before`, read backwards, and `after`. -/
def swapWithin (before : List Char) (c : Char) (after : List Char) : List Char :=
  if isUpper c then lowerWithin before c after else if isLower c then upperChar c else [c]

section

variable {before after text : List Char} {c : Char}

/-- The first character is swapped between what stands before it and what stands behind. -/
theorem swapAfter_cons (before : List Char) (c : Char) (rest : List Char) :
    swapAfter before (c :: rest) = swapWithin before c rest ++ swapAfter (c :: before) rest := rfl

/-- Only a capital sigma depends on its neighbours. -/
theorem swapWithin_eq (h : c ≠ 'Σ') : swapWithin before c after = swapChar c := by
  rw [swapWithin, lowerWithin, if_neg h, swapChar]

/-- A capital sigma is swapped to one of the two small ones. -/
theorem swapWithin_sigma (before after : List Char) :
    swapWithin before 'Σ' after = ['ς'] ∨ swapWithin before 'Σ' after = ['σ'] := by
  have hupper : isUpper 'Σ' = true := by decide +kernel
  rw [swapWithin, hupper, if_pos rfl, lowerWithin, if_pos rfl]
  split
  · exact .inl rfl
  · exact .inr rfl

/-- The final form of a sigma read as the other one. -/
def unfinal (c : Char) : Char :=
  if c = 'ς' then 'σ' else c

/-- But for the form of a sigma, a character is swapped alone. -/
theorem map_unfinal_swapWithin (before : List Char) (c : Char) (after : List Char) :
    (swapWithin before c after).map unfinal = (swapChar c).map unfinal := by
  by_cases h : c = 'Σ'
  · obtain ⟨-, -, -, -, hsigma, -⟩ := swapChar_rare
    obtain hfinal | hother := swapWithin_sigma before after
    · rw [h, hfinal, hsigma]
      rfl
    · rw [h, hother, hsigma]
  · rw [swapWithin_eq h]

/-- But for the form of a sigma, a text is swapped character by character. -/
theorem map_unfinal_swapAfter (before text : List Char) :
    (swapAfter before text).map unfinal = (text.flatMap swapChar).map unfinal := by
  induction text generalizing before with
  | nil => rfl
  | cons c text ih =>
    rw [swapAfter_cons, List.map_append, map_unfinal_swapWithin, ih, List.flatMap_cons,
      List.map_append]

/-- But for the form of sigmas, the case of a text is changed letter by letter. -/
theorem map_unfinal_swap (text : List Char) :
    (swap text).map unfinal = (text.flatMap swapChar).map unfinal :=
  map_unfinal_swapAfter [] text

/-- No letter of a spelling has a final sigma for its image. -/
theorem map_unfinal_spelling (h : ∀ c ∈ text, IsSpelling c) :
    (text.flatMap swapChar).map unfinal = text.flatMap swapChar := by
  refine (List.map_congr_left fun d hd => ?_).trans (List.map_id _)
  obtain ⟨c, hc, hd⟩ := List.mem_flatMap.mp hd
  exact if_neg ((h c hc).ne_of_mem_swapChar hd)

/-- Without a capital sigma, the rest of a text is swapped character by character. -/
theorem swapAfter_of_no_sigma (h : 'Σ' ∉ text) (before : List Char) :
    swapAfter before text = text.flatMap swapChar := by
  induction text generalizing before with
  | nil => rfl
  | cons c text ih =>
    rw [List.mem_cons, not_or] at h
    rw [swapAfter_cons, swapWithin_eq (Ne.symm h.1), ih h.2, List.flatMap_cons]

/-- Without a capital sigma, a text is swapped character by character. -/
theorem swap_of_no_sigma (h : 'Σ' ∉ text) : swap text = text.flatMap swapChar :=
  swapAfter_of_no_sigma h []

/-- What is looked up behind a letter depends on the rest only by whether that begins a word. -/
theorem startsCased_append (front : List Char) {rest rest' : List Char}
    (h : startsCased rest = startsCased rest') :
    startsCased (front ++ rest) = startsCased (front ++ rest') := by
  induction front with
  | nil => exact h
  | cons c front ih => simp only [List.cons_append, startsCased, ih]

/-- Texts that begin alike have images that begin alike, if the rests agree on beginning a word. -/
theorem swapAfter_append (before front : List Char) {rest rest' : List Char}
    (h : startsCased rest = startsCased rest') : ∃ image,
      swapAfter before (front ++ rest) = image ++ swapAfter (front.reverse ++ before) rest ∧
      swapAfter before (front ++ rest') = image ++ swapAfter (front.reverse ++ before) rest' := by
  induction front generalizing before with
  | nil => exact ⟨[], rfl, rfl⟩
  | cons c front ih =>
    obtain ⟨image, hrest, hrest'⟩ := ih (c :: before)
    -- What stands behind a character matters only for whether a word goes on there.
    have hsame : swapWithin before c (front ++ rest') = swapWithin before c (front ++ rest) := by
      simp only [swapWithin, lowerWithin, startsCased_append front h]
    refine ⟨swapWithin before c (front ++ rest) ++ image, ?_, ?_⟩
    · rw [List.cons_append, swapAfter_cons, hrest, List.append_assoc, List.reverse_cons,
        List.append_assoc, List.singleton_append]
    · rw [List.cons_append, swapAfter_cons, hsame, hrest', List.append_assoc, List.reverse_cons,
        List.append_assoc, List.singleton_append]

end

end Text

namespace Name

open Text (IsCasePair swapChar swapWithin swapAfter startsCased foldChar spelledChar)

/-! ### Equal keys -/

/-- What the key tells of a name: its letters, those that have no image of their own replaced by
the letters with the same images. -/
def spelled (name : String) : List Char :=
  name.toList.flatMap spelledChar

example : spelled "Straße" = "Strasse".toList := by decide +kernel

/-- A spelled name consists of characters that are their own spelling. -/
theorem isSpelling_of_mem_spelled {name : String} : ∀ c ∈ spelled name, Text.IsSpelling c := by
  intro c hc
  obtain ⟨letter, -, hc⟩ := List.mem_flatMap.mp hc
  exact Text.mem_spelledChar hc

/-- A spelled name is swapped as the name is. -/
theorem flatMap_swapChar_spelled (name : String) :
    (spelled name).flatMap swapChar = name.toList.flatMap swapChar := by
  rw [spelled, List.flatMap_assoc]
  exact List.flatMap_congr fun c _ => Text.swapChar_spelledChar c

/-- A spelled name folds as the name does. -/
theorem flatMap_foldChar_spelled (name : String) :
    (spelled name).flatMap foldChar = Text.fold name.toList := by
  rw [spelled, List.flatMap_assoc]
  exact List.flatMap_congr fun c _ => Text.foldChar_spelledChar c

/-- Two names have one key exactly if both their folds and their swaps are the same. -/
theorem sortKey_eq_iff {a b : String} : sortKey a = sortKey b ↔
    Text.fold a.toList = Text.fold b.toList ∧ Text.swap a.toList = Text.swap b.toList := by
  rw [sortKey, sortKey, SortKey.mk.injEq, String.ofList_inj, String.ofList_inj]

variable {a b : String}

/-- Names with the same key are spelled alike. -/
theorem spelled_eq_of_sortKey_eq (h : sortKey a = sortKey b) : spelled a = spelled b := by
  obtain ⟨hfold, hswap⟩ := sortKey_eq_iff.mp h
  -- A spelling has no final sigma in the other case, so the key tells that image of it.
  have hunfinal (name : String) :
      (spelled name).flatMap swapChar = (Text.swap name.toList).map Text.unfinal := by
    rw [Text.map_unfinal_swap, ← flatMap_swapChar_spelled,
      Text.map_unfinal_spelling isSpelling_of_mem_spelled]
  refine Text.eq_of_images_eq isSpelling_of_mem_spelled isSpelling_of_mem_spelled ?_ ?_
  · rw [hunfinal a, hunfinal b, hswap]
  · rw [flatMap_foldChar_spelled, flatMap_foldChar_spelled, hfold]

/-- Names that are spelled alike have the same key, unless one has a capital sigma, which depends
on its neighbours. -/
theorem sortKey_eq_of_spelled_eq (ha : 'Σ' ∉ a.toList) (hb : 'Σ' ∉ b.toList)
    (h : spelled a = spelled b) : sortKey a = sortKey b := by
  rw [sortKey_eq_iff, Text.swap_of_no_sigma ha, Text.swap_of_no_sigma hb,
    ← flatMap_swapChar_spelled, ← flatMap_swapChar_spelled, ← flatMap_foldChar_spelled,
    ← flatMap_foldChar_spelled, h]
  exact ⟨rfl, rfl⟩

/-! ### Names that differ in case -/

/-- The image of a capital, which may be a final sigma, compares to the capital as the small letter
of the pair does. -/
theorem swapWithin_capital {small capital : Char} (h : IsCasePair small capital)
    (before after : List Char) : ∃ image, swapWithin before capital after = [image] ∧
      capital ≠ image ∧ (capital < image ↔ capital < small) := by
  by_cases hsigma : capital = 'Σ'
  · -- Both forms of the small letter have a higher code point than the capital.
    obtain ⟨-, -, -, -, hswap, -⟩ := Text.swapChar_rare
    have hsmall := h.swap_capital
    rw [hsigma, hswap, List.singleton_inj] at hsmall
    subst hsigma hsmall
    obtain hfinal | hother := Text.swapWithin_sigma before after
    · exact ⟨'ς', hfinal, by decide, by decide⟩
    · exact ⟨'σ', hother, by decide, by decide⟩
  · exact ⟨small, (Text.swapWithin_eq hsigma).trans h.swap_capital, h.ne.symm, Iff.rfl⟩

/-- Texts are ordered by the first characters in which they differ. -/
theorem append_cons_le_iff {front rest rest' : List Char} {c d : Char} (h : c ≠ d) :
    front ++ c :: rest ≤ front ++ d :: rest' ↔ c < d := by
  rw [← not_lt]
  induction front with
  | nil =>
    rw [List.nil_append, List.nil_append, List.cons_lt_cons_iff]
    simp only [h.symm, false_and, or_false, not_lt]
    exact ⟨fun hle => lt_of_le_of_ne hle h, le_of_lt⟩
  | cons e front ih =>
    rw [List.cons_append, List.cons_append, List.cons_lt_cons_iff]
    simpa using ih

/-- Of two names that first differ in the case of a letter, that with the small letter comes first
if the capital has the lower code point, and last otherwise. -/
theorem sortKey_le_iff_of_casePair {small capital : Char} (h : IsCasePair small capital)
    {front s t : List Char} (ha : a.toList = front ++ small :: s)
    (hb : b.toList = front ++ capital :: t) (hfold : Text.fold a.toList = Text.fold b.toList) :
    (sortKey a).le (sortKey b) = true ↔ capital < small := by
  have hstarts : startsCased (small :: s) = startsCased (capital :: t) := by
    rw [Text.startsCased_of_swapChar_eq h.swap_small h.swap_capital h.ne,
      Text.startsCased_of_swapChar_eq h.swap_capital h.swap_small h.ne.symm]
  obtain ⟨image, hsmall, hcapital⟩ := Text.swapAfter_append [] front hstarts
  have hne : small ≠ 'Σ' := by
    rintro rfl
    exact absurd h.isLower (by decide +kernel)
  obtain ⟨letter, hletter, hdiffer, hless⟩ := swapWithin_capital h (front.reverse ++ []) t
  -- The images begin alike; then the capital stands against the image of the capital.
  have hswap : Text.swap a.toList
      = image ++ capital :: swapAfter (small :: (front.reverse ++ [])) s := by
    rw [ha, Text.swap, hsmall, Text.swapAfter_cons, Text.swapWithin_eq hne, h.swap_small,
      List.singleton_append]
  have hswap' : Text.swap b.toList
      = image ++ letter :: swapAfter (capital :: (front.reverse ++ [])) t := by
    rw [hb, Text.swap, hcapital, Text.swapAfter_cons, hletter, List.singleton_append]
  rw [SortKey.le_iff, sortKey, sortKey, hfold, hswap, hswap', String.le_iff_toList_le,
    String.toList_ofList, String.toList_ofList, append_cons_le_iff hdiffer, hless]
  exact ⟨fun hle => hle.elim (absurd · (String.lt_irrefl _)) And.right, fun hlt => .inr ⟨rfl, hlt⟩⟩

/-! ### Sorted names -/

section

variable {α : Type} (name : α → String)

/-- Items that stand in the order of their names stay there. -/
theorem sortByName_eq_self {items : List α}
    (h : items.Pairwise fun a b => (sortKey (name a)).le (sortKey (name b)) = true) :
    sortByName name items = items := by
  have hkeyed : (items.map fun item => (sortKey (name item), item)).Pairwise
      fun a b => a.1.le b.1 = true := List.pairwise_map.mpr h
  rw [sortByName, List.mergeSort_of_pairwise hkeyed, List.map_map]
  exact List.map_id items

/-- Names that are spelled differently have different keys. -/
theorem distinctKeys_of_spelled {items : List α}
    (h : (items.map fun item => spelled (name item)).Nodup) : DistinctKeys name items :=
  List.pairwise_map.mpr ((List.pairwise_map.mp h).imp fun hne heq =>
    hne (spelled_eq_of_sortKey_eq heq))

end

/-- **Alphabetical order.**  Names have the same key exactly if they are spelled alike, but for the
form that a capital sigma takes in the other case; of two names that first differ in the case of a
letter, that with the small letter comes first exactly if the capital has the lower code point; and
items whose names are spelled differently have one sorted order. -/
theorem sortKey_orders (a b : String) {α : Type} (name : α → String) (items items' : List α) :
    (sortKey a = sortKey b → spelled a = spelled b) ∧
    ('Σ' ∉ a.toList → 'Σ' ∉ b.toList → spelled a = spelled b → sortKey a = sortKey b) ∧
    (∀ (small capital : Char) (front s t : List Char), IsCasePair small capital →
      a.toList = front ++ small :: s → b.toList = front ++ capital :: t →
      Text.fold a.toList = Text.fold b.toList →
      ((sortKey a).le (sortKey b) = true ↔ capital < small)) ∧
    (items.Perm items' → (items.map fun item => spelled (name item)).Nodup →
      sortByName name items = sortByName name items') :=
  ⟨spelled_eq_of_sortKey_eq, sortKey_eq_of_spelled_eq,
    fun _ _ _ _ _ hpair ha hb hfold => sortKey_le_iff_of_casePair hpair ha hb hfold,
    fun hperm hnodup => sortByName_eq_of_perm name hperm (distinctKeys_of_spelled name hnodup)⟩

/-- Respelled names share a key; of a pair of cases the small letter comes first, if it does so by
its code. -/
theorem sortKey_orders_names :
    (spelled "Aſ" = spelled "As" ∧ sortKey "Aſ" = sortKey "As") ∧
    (IsCasePair 'n' 'N' ∧ (sortKey "name").le (sortKey "NAME") = true) ∧
    (IsCasePair 'ÿ' 'Ÿ' ∧ (sortKey "Iÿ").le (sortKey "IŸ") = false) ∧
    sortByName id ["Name", "name", "alias"] = sortByName id ["alias", "Name", "name"] := by
  have hperm : ["Name", "name", "alias"].Perm ["alias", "Name", "name"] := by decide
  have hpair : IsCasePair 'n' 'N' :=
    ⟨by decide, by decide, by decide, by decide, by decide⟩
  have hhigh : IsCasePair 'ÿ' 'Ÿ' :=
    ⟨by decide, by decide +kernel, by decide +kernel, by decide +kernel, by decide +kernel⟩
  obtain ⟨halike, hsame, -, hsorted⟩ := sortKey_orders "Aſ" "As" id
    ["Name", "name", "alias"] ["alias", "Name", "name"]
  obtain ⟨-, -, horder, -⟩ := sortKey_orders "name" "NAME" id [] []
  obtain ⟨-, -, hsecond, -⟩ := sortKey_orders "Iÿ" "IŸ" id [] []
  have hkeys : sortKey "Aſ" = sortKey "As" :=
    hsame (by decide) (by decide) (by decide +kernel)
  have hfirst : (sortKey "name").le (sortKey "NAME") = true :=
    (horder 'n' 'N' [] _ _ hpair rfl rfl (by decide +kernel)).mpr (by decide)
  have hlast : ¬ (sortKey "Iÿ").le (sortKey "IŸ") = true :=
    mt (hsecond 'ÿ' 'Ÿ' ['I'] [] [] hhigh rfl rfl (by decide +kernel)).mp (by decide)
  exact ⟨⟨halike hkeys, hkeys⟩, ⟨hpair, hfirst⟩, ⟨hhigh, Bool.eq_false_iff.mpr hlast⟩,
    hsorted hperm (by decide +kernel)⟩

/-- The capital comes first where it has the higher code point, and of two letters with the same
images that comes first which stood first. -/
theorem capital_sorted_first :
    (Text.isLower 'ÿ' = true ∧ Text.isUpper 'Ÿ' = true ∧
      Text.fold ['ÿ'] = Text.fold ['Ÿ'] ∧
      sortByName id ["Ÿ", "ÿ"] = ["Ÿ", "ÿ"] ∧ sortByName id ["ÿ", "Ÿ"] = ["Ÿ", "ÿ"]) ∧
    ("\u212a" ≠ "K" ∧ sortKey "\u212a" = sortKey "K" ∧
      sortByName id ["\u212a", "K"] = ["\u212a", "K"] ∧
      sortByName id ["K", "\u212a"] = ["K", "\u212a"]) := by
  have hcapital : sortByName id ["Ÿ", "ÿ"] = ["Ÿ", "ÿ"] :=
    sortByName_eq_self id (by decide +kernel)
  have hperm : ["ÿ", "Ÿ"].Perm ["Ÿ", "ÿ"] := by decide
  refine ⟨⟨by decide +kernel, by decide +kernel, by decide +kernel, hcapital, ?_⟩, by decide,
    by decide +kernel, sortByName_eq_self id (by decide +kernel),
    sortByName_eq_self id (by decide +kernel)⟩
  rw [sortByName_eq_of_perm id hperm (by decide +kernel), hcapital]

end Name

end TypeExport
