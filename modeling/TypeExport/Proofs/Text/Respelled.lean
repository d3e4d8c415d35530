import TypeExport.Proofs.Text.SwappedCase

/-!
# Letters that have the same images

A letter is settled if its case can be changed to and fro.  Every other letter but two has the same
images, in the other case and under case folding, as a spelling in settled letters; so from the two
images a letter can be told but for its spelling.

* `swapChar`, `swapTwice` — a letter in the other case, and once more.
* `swapTwice_eq_self` — every letter is settled but those listed.
* `spelledChar` — the settled letters that have the images of a letter.
* `swapChar_spelledChar`, `foldChar_spelledChar`, `mem_spelledChar` — they do, and they are settled.
* `eq_of_images_eq` — spellings with the same images are the same.
* `IsCasePair` — a small letter and a capital that stand for each other.
-/

namespace TypeExport.Text

/-! ### Changing the case of a letter -/

/-- A letter in the other case, whatever its neighbours. -/
def swapChar (c : Char) : List Char :=
  if isUpper c then lowerChar c else if isLower c then upperChar c else [c]

/-- A letter with its case changed twice. -/
def swapTwice (c : Char) : List Char :=
  (swapChar c).flatMap swapChar

/-- A character is swapped by its code. -/
theorem swapChar_eq (c : Char) : swapChar c = (swapCodes c.toNat).map Char.ofNat := by
  rw [swapChar, swapCodes, isUpper_eq, isLower_eq, lowerChar_eq, upperChar_eq]
  split
  · rfl
  · split
    · rfl
    · simp

/-- A valid code is the code of its character. -/
theorem toNat_ofNat {code : Nat} (h : code.isValidChar) : (Char.ofNat code).toNat = code := by
  rw [Char.ofNat, dif_pos h]
  rfl

/-- An image of letters is an image of their code points. -/
theorem flatMap_map_ofNat {f : Char → List Char} {g : Nat → List Nat}
    (hf : ∀ c, f c = (g c.toNat).map Char.ofNat) {codes : List Nat}
    (hvalid : ∀ code ∈ codes, code.isValidChar) :
    (codes.map Char.ofNat).flatMap f = (codes.flatMap g).map Char.ofNat := by
  rw [List.flatMap_map, List.map_flatMap]
  refine List.flatMap_congr fun code hcode => ?_
  rw [hf, toNat_ofNat (hvalid code hcode)]

/-- Swapping a valid code gives valid codes. -/
theorem isValidChar_of_mem_swapCodes {code image : Nat} (hcode : code.isValidChar)
    (himage : image ∈ swapCodes code) : image.isValidChar := by
  unfold swapCodes at himage
  split at himage
  · exact CaseMap.isValidChar_of_mem_codes tablesAgree.lower_valid hcode himage
  · split at himage
    · exact CaseMap.isValidChar_of_mem_codes tablesAgree.upper_valid hcode himage
    · exact List.mem_singleton.mp himage ▸ hcode

/-- The code of a character is valid. -/
theorem isValidChar_toNat (c : Char) : c.toNat.isValidChar :=
  c.valid

/-- A character is swapped twice by its code. -/
theorem swapTwice_eq (c : Char) :
    swapTwice c = ((swapCodes c.toNat).flatMap swapCodes).map Char.ofNat := by
  rw [swapTwice, swapChar_eq]
  exact flatMap_map_ofNat swapChar_eq fun code => isValidChar_of_mem_swapCodes (isValidChar_toNat c)

/-- Swapping a character leaves something. -/
theorem swapChar_ne_nil (c : Char) : swapChar c ≠ [] := by
  rw [swapChar_eq, ne_eq, List.map_eq_nil_iff, swapCodes]
  split
  · exact CaseMap.codes_ne_nil tablesAgree.lower_valid _
  · split
    · exact CaseMap.codes_ne_nil tablesAgree.upper_valid _
    · exact List.cons_ne_nil _ _

/-! ### Settled letters -/

section

variable {c d : Char}

/-- Every letter but those listed comes back when its case is changed twice. -/
theorem swapTwice_eq_self (hvariant : c.toNat ∉ variantCodes) (hloner : c.toNat ∉ lonerCodes) :
    swapTwice c = [c] := by
  rw [swapTwice_eq, swapCodes_swapCodes hvariant hloner, List.map_singleton, Char.ofNat_toNat]

/-- A settled letter has one letter for its image, and is the image of that. -/
theorem swapChar_of_settled (h : swapTwice c = [c]) :
    ∃ image, swapChar c = [image] ∧ swapChar image = [c] := by
  obtain ⟨image, images, hc⟩ := List.exists_cons_of_ne_nil (swapChar_ne_nil c)
  rw [swapTwice, hc, List.flatMap_cons, List.append_eq_singleton_iff] at h
  obtain ⟨hnil, -⟩ | ⟨hback, hrest⟩ := h
  · exact absurd hnil (swapChar_ne_nil image)
  · cases images with
    | nil => exact ⟨image, hc, hback⟩
    | cons other images =>
      -- A second letter in the image would have an image of its own behind the letter.
      rw [List.flatMap_cons, List.append_eq_nil_iff] at hrest
      exact absurd hrest.1 (swapChar_ne_nil other)

/-- What a settled character is swapped to is settled. -/
theorem settled_of_mem_swapChar (h : swapTwice c = [c]) (hd : d ∈ swapChar c) :
    swapTwice d = [d] := by
  obtain ⟨image, hc, hback⟩ := swapChar_of_settled h
  rw [hc, List.mem_singleton] at hd
  rw [hd, swapTwice, hback, List.flatMap_singleton, hc]

/-- What a variant is swapped to is settled. -/
theorem variant_image_settled (h : c.toNat ∈ variantCodes) (hd : d ∈ swapChar c) :
    swapTwice d = [d] := by
  rw [swapChar_eq] at hd
  obtain ⟨code, hcode, rfl⟩ := List.mem_map.mp hd
  have hvalid := isValidChar_of_mem_swapCodes (isValidChar_toNat c) hcode
  rw [swapTwice_eq, toNat_ofNat hvalid, variant_swapped h hcode, List.map_singleton]

/-- A variant that is swapped twice folds as before. -/
theorem variant_same_fold (h : c.toNat ∈ variantCodes) :
    (swapTwice c).flatMap foldChar = foldChar c := by
  rw [swapTwice_eq, foldChar_eq, ← variant_folded h]
  refine flatMap_map_ofNat foldChar_eq fun code hcode => ?_
  obtain ⟨image, himage, hcode⟩ := List.mem_flatMap.mp hcode
  have hvalid := isValidChar_of_mem_swapCodes (isValidChar_toNat c) himage
  exact isValidChar_of_mem_swapCodes hvalid hcode

/-! ### Spelling in settled letters -/

/-- The spelling of a letter in letters whose case can be changed to and fro.  The dotless `i` and
the capital sharp `s` have images of their own, which no other letters have. -/
def spelledChar (c : Char) : List Char :=
  if c = 'ı' ∨ c = 'ẞ' then [c] else swapTwice c

/-- The two letters that spelling leaves alone are those of the listed codes. -/
theorem loner_iff : c = 'ı' ∨ c = 'ẞ' ↔ c.toNat ∈ lonerCodes := by
  simp [lonerCodes, ← Char.toNat_inj]

/-- A letter is spelled as itself, or is listed and spelled with its case changed twice. -/
theorem spelledChar_cases (c : Char) :
    spelledChar c = [c] ∧ (swapTwice c = [c] ∨ c = 'ı' ∨ c = 'ẞ') ∨
    c.toNat ∈ variantCodes ∧ spelledChar c = swapTwice c := by
  by_cases hloner : c = 'ı' ∨ c = 'ẞ'
  · exact .inl ⟨if_pos hloner, .inr hloner⟩
  · have hspelled : spelledChar c = swapTwice c := if_neg hloner
    by_cases hvariant : c.toNat ∈ variantCodes
    · exact .inr ⟨hvariant, hspelled⟩
    · have hself := swapTwice_eq_self hvariant (mt loner_iff.mpr hloner)
      exact .inl ⟨hspelled.trans hself, .inl hself⟩

/-- The spelling of a character is swapped to what the character is. -/
theorem swapChar_spelledChar (c : Char) : (spelledChar c).flatMap swapChar = swapChar c := by
  obtain ⟨heq, -⟩ | ⟨hvariant, heq⟩ := spelledChar_cases c
  · rw [heq, List.flatMap_singleton]
  · calc (spelledChar c).flatMap swapChar
        = (swapChar c).flatMap swapTwice := by rw [heq, swapTwice, List.flatMap_assoc]; rfl
      _ = (swapChar c).flatMap fun d => [d] :=
          List.flatMap_congr fun d hd => variant_image_settled hvariant hd
      _ = swapChar c := List.flatMap_singleton' _

/-- The spelling of a character folds to what the character does. -/
theorem foldChar_spelledChar (c : Char) : (spelledChar c).flatMap foldChar = foldChar c := by
  obtain ⟨heq, -⟩ | ⟨hvariant, heq⟩ := spelledChar_cases c
  · rw [heq, List.flatMap_singleton]
  · rw [heq, variant_same_fold hvariant]

/-- The letters of a spelling are settled, or one of two. -/
def IsSpelling (c : Char) : Prop :=
  swapTwice c = [c] ∨ c = 'ı' ∨ c = 'ẞ'

/-- The spelling of a character consists of characters that are their own spelling. -/
theorem mem_spelledChar (h : d ∈ spelledChar c) : IsSpelling d := by
  obtain ⟨heq, hself⟩ | ⟨hvariant, heq⟩ := spelledChar_cases c
  · rw [heq, List.mem_singleton] at h
    exact h ▸ hself
  · rw [heq, swapTwice, List.mem_flatMap] at h
    obtain ⟨image, himage, hd⟩ := h
    exact .inl (settled_of_mem_swapChar (variant_image_settled hvariant himage) hd)

/-- The letters that the arguments below single out, in the other case. -/
theorem swapChar_rare :
    swapChar 'ı' = ['I'] ∧ swapChar 'I' = ['i'] ∧ swapChar 'ẞ' = ['ß'] ∧ swapChar 'ß' = ['S', 'S'] ∧
    swapChar 'Σ' = ['σ'] ∧ swapChar 'ς' = ['Σ'] ∧ swapChar '\u0345' = ['\u0399'] ∧
    swapChar '\u0399' = ['ι'] ∧ foldChar 'i' = ['i'] ∧ foldChar 'ı' = ['ı'] := by
  decide +kernel

/-- A letter of a spelling has one letter for its image; but for two, it is the image of that. -/
theorem IsSpelling.image (h : IsSpelling c) : ∃ image, swapChar c = [image] ∧
    (swapChar image = [c] ∨ c = 'ı' ∧ image = 'I' ∨ c = 'ẞ' ∧ image = 'ß') := by
  obtain ⟨hdotless, -, hsharp, -⟩ := swapChar_rare
  obtain hself | rfl | rfl := h
  · obtain ⟨image, hc, hback⟩ := swapChar_of_settled hself
    exact ⟨image, hc, .inl hback⟩
  · exact ⟨'I', hdotless, .inr (.inl ⟨rfl, rfl⟩)⟩
  · exact ⟨'ß', hsharp, .inr (.inr ⟨rfl, rfl⟩)⟩

/-- The final sigma is no image, as a capital sigma stands for the other one. -/
theorem IsSpelling.ne_of_mem_swapChar (h : IsSpelling c) (hd : d ∈ swapChar c) : d ≠ 'ς' := by
  obtain ⟨-, -, -, -, hsigma, hfinal, -⟩ := swapChar_rare
  obtain ⟨image, hc, hcase⟩ := h.image
  rw [hc, List.mem_singleton] at hd
  rintro rfl
  obtain hback | ⟨-, himage⟩ | ⟨-, himage⟩ := hcase
  · rw [← hd, hfinal, List.singleton_inj] at hback
    rw [← hback, hsigma, List.singleton_inj] at hc
    exact absurd (hc.trans hd.symm) (by decide)
  · exact absurd (hd.trans himage) (by decide)
  · exact absurd (hd.trans himage) (by decide)

/-- Letters of spellings with the same image are the same, but for the two that become a capital
`i`. -/
theorem IsSpelling.eq_of_swapChar_eq (hc : IsSpelling c) (hd : IsSpelling d)
    (h : swapChar c = swapChar d) : c = d ∨ c = 'i' ∧ d = 'ı' ∨ c = 'ı' ∧ d = 'i' := by
  obtain ⟨-, hcapital, -, hsharp, -⟩ := swapChar_rare
  obtain ⟨image, himage, hcase⟩ := hc.image
  obtain ⟨other, hother, hcase'⟩ := hd.image
  obtain rfl : image = other := List.singleton_inj.mp (himage.symm.trans (h.trans hother))
  -- Each letter either comes back from its image or is one of the two exceptions.
  obtain hback | ⟨rfl, rfl⟩ | ⟨rfl, rfl⟩ := hcase <;>
    obtain hback' | ⟨rfl, himage'⟩ | ⟨rfl, himage'⟩ := hcase'
  · exact .inl (List.singleton_inj.mp (hback.symm.trans hback'))
  · rw [himage', hcapital] at hback
    exact .inr (.inl ⟨(List.singleton_inj.mp hback).symm, rfl⟩)
  · simp [himage', hsharp] at hback
  · rw [hcapital] at hback'
    exact .inr (.inr ⟨rfl, (List.singleton_inj.mp hback').symm⟩)
  · exact .inl rfl
  · simp at himage'
  · simp [hsharp] at hback'
  · simp at himage'
  · exact .inl rfl

/-- **One spelling.**  Spellings that have the same image in the other case, and under case folding,
are the same. -/
theorem eq_of_images_eq {a b : List Char} (ha : ∀ c ∈ a, IsSpelling c) (hb : ∀ c ∈ b, IsSpelling c)
    (hswap : a.flatMap swapChar = b.flatMap swapChar)
    (hfold : a.flatMap foldChar = b.flatMap foldChar) : a = b := by
  induction a generalizing b with
  | nil =>
    cases b with
    | nil => rfl
    | cons d b =>
      rw [List.flatMap_nil, List.flatMap_cons, eq_comm, List.append_eq_nil_iff] at hswap
      exact absurd hswap.1 (swapChar_ne_nil d)
  | cons c a ih =>
    cases b with
    | nil =>
      rw [List.flatMap_nil, List.flatMap_cons, List.append_eq_nil_iff] at hswap
      exact absurd hswap.1 (swapChar_ne_nil c)
    | cons d b =>
      rw [List.forall_mem_cons] at ha hb
      obtain ⟨image, hc, -⟩ := ha.1.image
      obtain ⟨other, hd, -⟩ := hb.1.image
      rw [List.flatMap_cons, List.flatMap_cons, hc, hd, List.singleton_append,
        List.singleton_append, List.cons_eq_cons] at hswap
      obtain ⟨rfl, hrest⟩ := hswap
      obtain ⟨-, -, -, -, -, -, -, -, hdotted, hdotless⟩ := swapChar_rare
      obtain rfl | ⟨rfl, rfl⟩ | ⟨rfl, rfl⟩ := ha.1.eq_of_swapChar_eq hb.1 (hc.trans hd.symm)
      · rw [List.flatMap_cons, List.flatMap_cons, List.append_cancel_left_eq] at hfold
        rw [ih ha.2 hb.2 hrest hfold]
      -- Only case folding tells the dotted and the dotless letter apart.
      · simp [hdotted, hdotless] at hfold
      · simp [hdotted, hdotless] at hfold

/-! ### Pairs of letters -/

/-- A small letter and a capital that stand for each other when the case is changed. -/
structure IsCasePair (small capital : Char) : Prop where
  ne : small ≠ capital
  isLower : isLower small = true
  isUpper : isUpper capital = true
  swap_small : swapChar small = [capital]
  swap_capital : swapChar capital = [small]

/-- A letter that has another one for its image stands in a run of a table. -/
theorem covers_of_swapChar_eq (h : swapChar c = [d]) (hne : c ≠ d) :
    (∃ run ∈ CaseMap.lower.runs, run.covers c.toNat = true) ∨
    ∃ run ∈ CaseMap.upper.runs, run.covers c.toNat = true := by
  have hlength {image : List Nat} (hone : image.length ≠ 1)
      (heq : swapCodes c.toNat = image) : False := by
    have hcount := congrArg List.length h
    rw [swapChar_eq, List.length_map, heq] at hcount
    exact hone hcount
  have hstays (heq : swapCodes c.toNat = [c.toNat]) : False := by
    rw [swapChar_eq, heq, List.map_singleton, Char.ofNat_toNat, List.singleton_inj] at h
    exact hne h
  -- Outside the runs, a letter has itself or several letters for its image.
  cases hupper : LetterSet.upperCase.contains c.toNat with
  | true =>
    have hswap := swapCodes_upper hupper
    obtain ⟨run, hrun, hcovers, -⟩ | ⟨image, himage, heq⟩ | heq :=
      CaseMap.lower.codes_cases c.toNat
    · exact .inl ⟨run, hrun, hcovers⟩
    · exact (hlength (tablesAgree.lower_keys _ himage).2.2 (hswap.trans heq)).elim
    · exact (hstays (hswap.trans heq)).elim
  | false =>
    cases hlower : LetterSet.lowerCase.contains c.toNat with
    | true =>
      have hswap := swapCodes_lower hupper hlower
      obtain ⟨run, hrun, hcovers, -⟩ | ⟨image, himage, heq⟩ | heq :=
        CaseMap.upper.codes_cases c.toNat
      · exact .inr ⟨run, hrun, hcovers⟩
      · exact (hlength (tablesAgree.upper_keys_listed _ himage).2 (hswap.trans heq)).elim
      · exact (hstays (hswap.trans heq)).elim
    | false => exact (hstays (by rw [swapCodes, hupper, hlower]; rfl)).elim

/-- A letter and its image that stand for each other begin a word. -/
theorem startsCased_of_swapChar_eq (h : swapChar c = [d]) (hback : swapChar d = [c]) (hne : c ≠ d)
    (rest : List Char) : startsCased (c :: rest) = true := by
  -- The one mark that a run moves has a capital iota for its image, which stands for another
  -- letter.
  have hmark : c.toNat ∉ [0x345] := by
    intro hin
    obtain ⟨-, -, -, -, -, -, hbelow, hiota, -⟩ := swapChar_rare
    obtain rfl : c = '\u0345' := Char.toNat_inj.mp (List.mem_singleton.mp hin)
    rw [hbelow, List.singleton_inj] at h
    rw [← h, hiota] at hback
    simp at hback
  have hcontext : LetterSet.casedContext.contains c.toNat = true ∧
      LetterSet.caseIgnorable.contains c.toNat = false := by
    obtain ⟨run, hrun, hcovers⟩ | ⟨run, hrun, hcovers⟩ := covers_of_swapChar_eq h hne
    · exact ⟨(CodeSet.contains_of_agreesOn tablesAgree.lower_cased lower_ascending hrun
          hcovers).resolve_right nofun,
        (CodeSet.contains_of_agreesOn tablesAgree.lower_not_ignored lower_ascending hrun
          hcovers).resolve_right nofun⟩
    · exact ⟨(CodeSet.contains_of_agreesOn tablesAgree.upper_cased upper_ascending hrun
          hcovers).resolve_right hmark,
        (CodeSet.contains_of_agreesOn tablesAgree.upper_not_ignored upper_ascending hrun
          hcovers).resolve_right hmark⟩
  rw [startsCased, hcontext.1, hcontext.2]
  rfl

end

end TypeExport.Text
