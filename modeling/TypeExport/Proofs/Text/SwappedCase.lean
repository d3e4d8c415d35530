import TypeExport.Text.Case
import TypeExport.Proofs.Text.CaseRuns

/-!
# Letters with their case changed twice

Changing the case of a letter twice gives the letter back, but for 104 letters: capitals and small
letters need not come in pairs, and some images are longer than one letter.  All but two of these
letters become letters that are given back, and that have the same image under case folding.

* `CaseMap.codes_cases`, `CaseMap.image_of_ascii` — what a table says of a code point.
* `titleCodes`, `variantCodes`, `lonerCodes` — letters in title case, and those not given back.
* `TablesAgree` — what the tables are checked for.
* `swapCodes` — a code point in the other case.
* `swapCodes_swapCodes` — its case changed twice.
* `variant_swapped`, `variant_folded` — the letters that are not given back.
-/

namespace TypeExport.Text

/-! ### What a table says of a code point -/

namespace CaseMap

variable {mapping : CaseMap} {code : Nat}

/-- A code that a run covers is mapped to its target in that run alone. -/
theorem codes_of_find {run : CaseRun} (h : mapping.runs.find? (·.covers code) = some run) :
    mapping.codes code = [run.target code] := by
  rw [codes, h]

/-- A code point is moved by a run, has an expansion, or stays. -/
theorem codes_cases (mapping : CaseMap) (code : Nat) :
    (∃ run ∈ mapping.runs, run.covers code = true ∧
      mapping.runs.find? (·.covers code) = some run ∧ mapping.codes code = [run.target code]) ∨
    (∃ image, (code, image) ∈ mapping.expansions ∧ mapping.codes code = image) ∨
    mapping.codes code = [code] := by
  unfold codes
  cases hrun : mapping.runs.find? (·.covers code) with
  | some run =>
    have hcovers := List.find?_some hrun
    exact .inl ⟨run, List.mem_of_find?_eq_some hrun, hcovers, rfl, rfl⟩
  | none =>
    cases hexpansion : mapping.expansions.lookup code with
    | none => exact .inr (.inr rfl)
    | some image =>
      obtain ⟨before, behind, heq, -⟩ := List.lookup_eq_some_iff.mp hexpansion
      exact .inr (.inl ⟨image, heq ▸ List.mem_append_right before List.mem_cons_self, rfl⟩)

/-- The images of a table are code points of characters, as far as it mentions any. -/
def IsValid (mapping : CaseMap) : Prop :=
  (∀ run ∈ mapping.runs, 0 ≤ run.first + run.offset ∧ (run.last + run.offset < 0xd800 ∨
    0xdfff < run.first + run.offset ∧ run.last + run.offset < 0x110000)) ∧
  ∀ expansion ∈ mapping.expansions, expansion.2 ≠ [] ∧ ∀ code ∈ expansion.2, code.isValidChar

instance (mapping : CaseMap) : Decidable mapping.IsValid :=
  inferInstanceAs (Decidable (_ ∧ _))

/-- The images of a character are characters. -/
theorem isValidChar_of_mem_codes (h : mapping.IsValid) (hcode : code.isValidChar) {image : Nat}
    (himage : image ∈ mapping.codes code) : image.isValidChar := by
  obtain ⟨run, hrun, hcovers, -, heq⟩ | ⟨codes, hcodes, heq⟩ | heq := mapping.codes_cases code
  · rw [heq, List.mem_singleton] at himage
    obtain ⟨hnonneg, hvalid⟩ := h.1 run hrun
    obtain ⟨hfirst, hlast, -⟩ := CaseRun.covers_iff.mp hcovers
    rw [himage]
    unfold CaseRun.target Nat.isValidChar
    omega
  · exact (h.2 _ hcodes).2 image (heq ▸ himage)
  · rw [heq, List.mem_singleton] at himage
    exact himage ▸ hcode

/-- No code is mapped to nothing. -/
theorem codes_ne_nil (h : mapping.IsValid) (code : Nat) : mapping.codes code ≠ [] := by
  obtain ⟨run, -, -, -, heq⟩ | ⟨codes, hcodes, heq⟩ | heq := mapping.codes_cases code
  · simp [heq]
  · exact heq ▸ (h.2 _ hcodes).1
  · simp [heq]

/-- The table mentions no character in ASCII but those that its first run moves. -/
def IsAsciiRun (mapping : CaseMap) (run : CaseRun) : Prop :=
  mapping.runs = run :: mapping.runs.tail ∧ (∀ other ∈ mapping.runs.tail, 128 ≤ other.first) ∧
    ∀ expansion ∈ mapping.expansions, 128 ≤ expansion.1

/-- Below 128, one run says what a code is mapped to. -/
theorem codes_of_ascii {run : CaseRun} (h : mapping.IsAsciiRun run) (hcode : code < 128) :
    mapping.codes code = [if run.covers code then run.target code else code] := by
  obtain ⟨hruns, hlater, hkeys⟩ := h
  -- Whatever else the table mentions begins behind ASCII.
  have hnone : mapping.runs.tail.find? (·.covers code) = none := by
    rw [List.find?_eq_none]
    intro other hother hcovers
    have hfirst := (CaseRun.covers_iff.mp hcovers).1
    have hascii := hlater other hother
    omega
  have hlookup : mapping.expansions.lookup code = none := by
    rw [List.lookup_eq_none_iff]
    intro expansion hexpansion
    have hascii := hkeys expansion hexpansion
    rw [bne_iff_ne]
    omega
  rw [codes, hruns, List.find?_cons]
  cases hcovers : run.covers code <;> simp [hnone, hlookup]

/-- In ASCII the table is a function on characters. -/
theorem image_of_ascii {run : CaseRun} {f : Char → Char} (h : mapping.IsAsciiRun run)
    (hf : ∀ code < 128, f (Char.ofNat code) =
      Char.ofNat (if run.covers code then run.target code else code)) {c : Char}
    (hc : c.toNat < 128) : mapping.image c = [f c] := by
  have hchar := hf c.toNat hc
  rw [Char.ofNat_toNat] at hchar
  rw [image_eq, codes_of_ascii h hc, hchar]
  rfl

end CaseMap

/-! ### What the tables say of each other -/

/-- Letters in title case, which are neither capitals nor small letters. -/
def titleCodes : List Nat := [
  0x1c5, 0x1c8, 0x1cb, 0x1f2, 0x1f88, 0x1f89, 0x1f8a, 0x1f8b, 0x1f8c, 0x1f8d, 0x1f8e, 0x1f8f,
  0x1f98, 0x1f99, 0x1f9a, 0x1f9b, 0x1f9c, 0x1f9d, 0x1f9e, 0x1f9f, 0x1fa8, 0x1fa9, 0x1faa, 0x1fab,
  0x1fac, 0x1fad, 0x1fae, 0x1faf, 0x1fbc, 0x1fcc, 0x1ffc]

/-- Letters that are spelled otherwise after their case has been changed twice, and whose spelling
has the same images. -/
def variantCodes : List Nat := [
  0xb5, 0xdf, 0x130, 0x149, 0x17f, 0x1f0, 0x345, 0x390, 0x3b0, 0x3c2, 0x3d0, 0x3d1, 0x3d5, 0x3d6,
  0x3f0, 0x3f1, 0x3f4, 0x3f5, 0x587, 0x1c80, 0x1c81, 0x1c82, 0x1c83, 0x1c84, 0x1c85, 0x1c86, 0x1c87,
  0x1c88, 0x1e96, 0x1e97, 0x1e98, 0x1e99, 0x1e9a, 0x1e9b, 0x1f50, 0x1f52, 0x1f54, 0x1f56, 0x1f80,
  0x1f81, 0x1f82, 0x1f83, 0x1f84, 0x1f85, 0x1f86, 0x1f87, 0x1f90, 0x1f91, 0x1f92, 0x1f93, 0x1f94,
  0x1f95, 0x1f96, 0x1f97, 0x1fa0, 0x1fa1, 0x1fa2, 0x1fa3, 0x1fa4, 0x1fa5, 0x1fa6, 0x1fa7, 0x1fb2,
  0x1fb3, 0x1fb4, 0x1fb6, 0x1fb7, 0x1fbe, 0x1fc2, 0x1fc3, 0x1fc4, 0x1fc6, 0x1fc7, 0x1fd2, 0x1fd3,
  0x1fd6, 0x1fd7, 0x1fe2, 0x1fe3, 0x1fe4, 0x1fe6, 0x1fe7, 0x1ff2, 0x1ff3, 0x1ff4, 0x1ff6, 0x1ff7,
  0x2126, 0x212a, 0x212b, 0xfb00, 0xfb01, 0xfb02, 0xfb03, 0xfb04, 0xfb05, 0xfb06, 0xfb13, 0xfb14,
  0xfb15, 0xfb16, 0xfb17]

/-- The dotless `i` and the capital sharp `s`, which have no other letter with the same images. -/
def lonerCodes : List Nat := [0x131, 0x1e9e]

/-- The image of a code point in the other case, by the ascending tables alone. -/
noncomputable def otherCase (code : Nat) : List Nat :=
  if CaseMap.lower.sortedCodes code = [code] then CaseMap.upper.sortedCodes code
  else CaseMap.lower.sortedCodes code

/-- The facts about the tables on which everything below rests. -/
class TablesAgree : Prop where
  lower_valid : CaseMap.lower.IsValid
  upper_valid : CaseMap.upper.IsValid
  lower_ascii : CaseMap.lower.IsAsciiRun ⟨0x41, 0x5a, 1, 32⟩
  upper_ascii : CaseMap.upper.IsAsciiRun ⟨0x61, 0x7a, 1, -32⟩
  fold_ascii : CaseMap.fold.IsAsciiRun ⟨0x41, 0x5a, 1, 32⟩
  toLower_ascii : ∀ code < 128, (Char.ofNat code).toLower = Char.ofNat
    (if CaseRun.covers ⟨0x41, 0x5a, 1, 32⟩ code then CaseRun.target ⟨0x41, 0x5a, 1, 32⟩ code
      else code)
  toUpper_ascii : ∀ code < 128, (Char.ofNat code).toUpper = Char.ofNat
    (if CaseRun.covers ⟨0x61, 0x7a, 1, -32⟩ code then CaseRun.target ⟨0x61, 0x7a, 1, -32⟩ code
      else code)
  isUpper_ascii : ∀ code < 128,
    (Char.ofNat code).isUpper = LetterSet.upperCase.contains (Char.ofNat code).toNat
  isLower_ascii : ∀ code < 128,
    (Char.ofNat code).isLower = LetterSet.lowerCase.contains (Char.ofNat code).toNat
  lower_chain : CaseMap.lower.runs.IsChain fun run other => run.first ≤ other.first
  upper_chain : CaseMap.upper.runs.IsChain fun run other => run.first ≤ other.first
  fold_chain : CaseMap.fold.runs.IsChain fun run other => run.first ≤ other.first
  /-- Runs to lower case move capitals, and letters in title case. -/
  lower_capitals :
    CodeSet.agreesOn true titleCodes CaseMap.lower.runs (false, LetterSet.upperCase.borders)
  /-- Runs to upper case move small letters, and letters in title case. -/
  upper_small :
    CodeSet.agreesOn true titleCodes CaseMap.upper.runs (false, LetterSet.lowerCase.borders)
  upper_no_capitals :
    CodeSet.agreesOn false [] CaseMap.upper.runs (false, LetterSet.upperCase.borders)
  lower_cased : CodeSet.agreesOn true [] CaseMap.lower.runs (false, LetterSet.casedContext.borders)
  upper_cased :
    CodeSet.agreesOn true [0x345] CaseMap.upper.runs (false, LetterSet.casedContext.borders)
  lower_not_ignored :
    CodeSet.agreesOn false [] CaseMap.lower.runs (false, LetterSet.caseIgnorable.borders)
  /-- The iota below is a mark, which is passed over. -/
  upper_not_ignored :
    CodeSet.agreesOn false [0x345] CaseMap.upper.runs (false, LetterSet.caseIgnorable.borders)
  lower_undone : ∀ run ∈ CaseMap.lower.runs,
    run.isUndone CaseMap.upper.runs (variantCodes ++ lonerCodes ++ titleCodes)
  upper_undone : ∀ run ∈ CaseMap.upper.runs,
    run.isUndone CaseMap.lower.runs (variantCodes ++ lonerCodes ++ titleCodes)
  /-- The only capital with an expansion has a dot above. -/
  lower_keys : ∀ expansion ∈ CaseMap.lower.expansions,
    LetterSet.upperCase.contains expansion.1 ∧ expansion.1 ∈ variantCodes ∧ expansion.2.length ≠ 1
  upper_keys_chain : (CaseMap.upper.expansions.map Prod.fst).IsChain (· ≤ ·)
  upper_keys_small : CodeSet.agrees true titleCodes (CaseMap.upper.expansions.map Prod.fst)
    (false, LetterSet.lowerCase.borders)
  upper_keys_no_capitals : CodeSet.agrees false [] (CaseMap.upper.expansions.map Prod.fst)
    (false, LetterSet.upperCase.borders)
  upper_keys_listed : ∀ expansion ∈ CaseMap.upper.expansions,
    listed expansion.1 (variantCodes ++ titleCodes) ∧ expansion.2.length ≠ 1
  title_chain : titleCodes.IsChain (· ≤ ·)
  title_not_small : CodeSet.agrees false [] titleCodes (false, LetterSet.lowerCase.borders)
  title_no_capitals : CodeSet.agrees false [] titleCodes (false, LetterSet.upperCase.borders)
  /-- No letter gives a letter in title case back. -/
  title_not_returned : ∀ code ∈ titleCodes,
    (CaseMap.lower.sortedCodes code).flatMap CaseMap.upper.sortedCodes ≠ [code] ∧
    (CaseMap.upper.sortedCodes code).flatMap CaseMap.lower.sortedCodes ≠ [code]
  /-- The images of letters that are spelled otherwise are not themselves such letters. -/
  variant_images : ∀ code ∈ variantCodes, listed code titleCodes = false ∧
    ∀ image ∈ otherCase code, listed image (titleCodes ++ variantCodes ++ lonerCodes) = false
  /-- The other spelling has the same image under case folding. -/
  variant_folded : ∀ code ∈ variantCodes, ((otherCase code).flatMap otherCase).flatMap
    CaseMap.fold.sortedCodes = CaseMap.fold.sortedCodes code

instance tablesAgree : TablesAgree where
  lower_valid := by decide +kernel
  upper_valid := by decide +kernel
  lower_ascii := ⟨rfl, by decide +kernel, by decide +kernel⟩
  upper_ascii := ⟨rfl, by decide +kernel, by decide +kernel⟩
  fold_ascii := ⟨rfl, by decide +kernel, by decide +kernel⟩
  toLower_ascii := by decide +kernel
  toUpper_ascii := by decide +kernel
  isUpper_ascii := by decide +kernel
  isLower_ascii := by decide +kernel
  lower_chain := by decide +kernel
  upper_chain := by decide +kernel
  fold_chain := by decide +kernel
  lower_capitals := by decide +kernel
  upper_small := by decide +kernel
  upper_no_capitals := by decide +kernel
  lower_cased := by decide +kernel
  upper_cased := by decide +kernel
  lower_not_ignored := by decide +kernel
  upper_not_ignored := by decide +kernel
  lower_undone := by decide +kernel
  upper_undone := by decide +kernel
  lower_keys := by decide +kernel
  upper_keys_chain := by decide +kernel
  upper_keys_small := by decide +kernel
  upper_keys_no_capitals := by decide +kernel
  upper_keys_listed := by decide +kernel
  title_chain := by decide +kernel
  title_not_small := by decide +kernel
  title_no_capitals := by decide +kernel
  title_not_returned := by decide +kernel
  variant_images := by decide +kernel
  variant_folded := by decide +kernel

/-! ### Letters by their code points -/

/-- The lower case of a character is the image of its code point. -/
theorem lowerChar_eq (c : Char) : lowerChar c = (CaseMap.lower.codes c.toNat).map Char.ofNat := by
  rw [← CaseMap.image_eq, lowerChar]
  split
  · next hascii =>
    exact (CaseMap.image_of_ascii tablesAgree.lower_ascii tablesAgree.toLower_ascii hascii).symm
  · rfl

/-- The upper case of a character is the image of its code point. -/
theorem upperChar_eq (c : Char) : upperChar c = (CaseMap.upper.codes c.toNat).map Char.ofNat := by
  rw [← CaseMap.image_eq, upperChar]
  split
  · next hascii =>
    exact (CaseMap.image_of_ascii tablesAgree.upper_ascii tablesAgree.toUpper_ascii hascii).symm
  · rfl

/-- The folded case of a character is the image of its code point. -/
theorem foldChar_eq (c : Char) : foldChar c = (CaseMap.fold.codes c.toNat).map Char.ofNat := by
  rw [← CaseMap.image_eq, foldChar]
  split
  · next hascii =>
    exact (CaseMap.image_of_ascii tablesAgree.fold_ascii tablesAgree.toLower_ascii hascii).symm
  · rfl

/-- A fact about characters in ASCII by their code points. -/
theorem forall_ascii {P : Char → Prop} (h : ∀ code < 128, P (Char.ofNat code)) {c : Char}
    (hc : c.toNat < 128) : P c := by
  have hcode := h c.toNat hc
  rwa [Char.ofNat_toNat] at hcode

/-- Capitals are the letters of the table of capitals. -/
theorem isUpper_eq (c : Char) : isUpper c = LetterSet.upperCase.contains c.toNat := by
  rw [isUpper]
  split
  · next hascii =>
    exact forall_ascii (P := fun c => c.isUpper = LetterSet.upperCase.contains c.toNat)
      tablesAgree.isUpper_ascii hascii
  · rfl

/-- Small letters are the letters of the table of small letters. -/
theorem isLower_eq (c : Char) : isLower c = LetterSet.lowerCase.contains c.toNat := by
  rw [isLower]
  split
  · next hascii =>
    exact forall_ascii (P := fun c => c.isLower = LetterSet.lowerCase.contains c.toNat)
      tablesAgree.isLower_ascii hascii
  · rfl

/-! ### Letters that a table moves -/

section

variable {code : Nat} {run : CaseRun}

/-- The runs of the lower case ascend. -/
theorem lower_ascending : CaseRun.Ascending CaseMap.lower.runs :=
  CaseRun.ascending_of_isChain tablesAgree.lower_chain

/-- The runs of the upper case ascend. -/
theorem upper_ascending : CaseRun.Ascending CaseMap.upper.runs :=
  CaseRun.ascending_of_isChain tablesAgree.upper_chain

/-- The runs of the folded case ascend. -/
theorem fold_ascending : CaseRun.Ascending CaseMap.fold.runs :=
  CaseRun.ascending_of_isChain tablesAgree.fold_chain

/-- What has a lower case of its own is a capital or a title case letter. -/
theorem lower_sources (h : run ∈ CaseMap.lower.runs) (hcode : run.covers code = true) :
    LetterSet.upperCase.contains code = true ∨ code ∈ titleCodes :=
  CodeSet.contains_of_agreesOn tablesAgree.lower_capitals lower_ascending h hcode

/-- What has an upper case of its own is a small letter or a title case letter, and no capital. -/
theorem upper_sources (h : run ∈ CaseMap.upper.runs) (hcode : run.covers code = true) :
    (LetterSet.lowerCase.contains code = true ∨ code ∈ titleCodes) ∧
    LetterSet.upperCase.contains code = false := by
  have hcapital :=
    CodeSet.contains_of_agreesOn tablesAgree.upper_no_capitals upper_ascending h hcode
  exact ⟨CodeSet.contains_of_agreesOn tablesAgree.upper_small upper_ascending h hcode,
    hcapital.resolve_right nofun⟩

/-- The keys of expansions in upper case are small letters or letters in title case. -/
theorem upper_keys {image : List Nat} (h : (code, image) ∈ CaseMap.upper.expansions) :
    (LetterSet.lowerCase.contains code = true ∨ code ∈ titleCodes) ∧
    LetterSet.upperCase.contains code = false := by
  have hkey : code ∈ CaseMap.upper.expansions.map Prod.fst := List.mem_map_of_mem h
  have hchain := tablesAgree.upper_keys_chain
  have hcapital := CodeSet.contains_of_agrees tablesAgree.upper_keys_no_capitals hchain hkey
  exact ⟨CodeSet.contains_of_agrees tablesAgree.upper_keys_small hchain hkey,
    hcapital.resolve_right nofun⟩

/-- A title case letter is neither a small letter nor a capital. -/
theorem title_not_cased (h : code ∈ titleCodes) :
    LetterSet.lowerCase.contains code = false ∧ LetterSet.upperCase.contains code = false := by
  have hchain := tablesAgree.title_chain
  exact ⟨(CodeSet.contains_of_agrees tablesAgree.title_not_small hchain h).resolve_right nofun,
    (CodeSet.contains_of_agrees tablesAgree.title_no_capitals hchain h).resolve_right nofun⟩

/-- Neither order of the two maps returns a title case letter. -/
theorem title_not_returned (h : code ∈ titleCodes) :
    (CaseMap.lower.codes code).flatMap CaseMap.upper.codes ≠ [code] ∧
    (CaseMap.upper.codes code).flatMap CaseMap.lower.codes ≠ [code] := by
  rw [← CaseMap.sortedCodes_eq lower_ascending, ← CaseMap.sortedCodes_eq upper_ascending]
  exact tablesAgree.title_not_returned code h

/-! ### Changed case by code point -/

/-- The image of a code point in the other case; what is no letter stays, and so does a letter in
title case. -/
def swapCodes (code : Nat) : List Nat :=
  if LetterSet.upperCase.contains code then CaseMap.lower.codes code
  else if LetterSet.lowerCase.contains code then CaseMap.upper.codes code
  else [code]

/-- A capital is swapped for its lower case. -/
theorem swapCodes_upper (h : LetterSet.upperCase.contains code = true) :
    swapCodes code = CaseMap.lower.codes code :=
  if_pos h

/-- A small letter is swapped for its upper case. -/
theorem swapCodes_lower (h : LetterSet.upperCase.contains code = false)
    (hlower : LetterSet.lowerCase.contains code = true) :
    swapCodes code = CaseMap.upper.codes code := by
  rw [swapCodes, h, hlower]
  rfl

/-- A capital stands for its small letter if the table of capitals moves that back. -/
theorem swapCodes_of_returns_upper (h : CaseRun.Returns CaseMap.upper.runs run code)
    (htarget : CaseMap.lower.codes code = [run.target code]) :
    swapCodes (run.target code) = [code] := by
  obtain ⟨other, hfound, hback⟩ := h
  have hother := List.mem_of_find?_eq_some hfound
  have hcovers := List.find?_some hfound
  have hcodes := CaseMap.codes_of_find hfound
  rw [hback] at hcodes
  -- What a run to upper case moves is a small letter, unless it is in title case.
  obtain ⟨hlower | htitle, hcapital⟩ := upper_sources hother hcovers
  · rw [swapCodes_lower hcapital hlower, hcodes]
  · exact absurd (by rw [hcodes, List.flatMap_singleton, htarget]) (title_not_returned htitle).2

/-- A small letter stands for its capital if the table of small letters moves that back. -/
theorem swapCodes_of_returns_lower (h : CaseRun.Returns CaseMap.lower.runs run code)
    (htarget : CaseMap.upper.codes code = [run.target code]) :
    swapCodes (run.target code) = [code] := by
  obtain ⟨other, hfound, hback⟩ := h
  have hother := List.mem_of_find?_eq_some hfound
  have hcovers := List.find?_some hfound
  have hcodes := CaseMap.codes_of_find hfound
  rw [hback] at hcodes
  obtain hupper | htitle := lower_sources hother hcovers
  · rw [swapCodes_upper hupper, hcodes]
  · exact absurd (by rw [hcodes, List.flatMap_singleton, htarget]) (title_not_returned htitle).1

/-- **Changed twice.**  A code point comes back when its case is changed twice, but for the letters
that are listed. -/
theorem swapCodes_swapCodes (hvariant : code ∉ variantCodes) (hloner : code ∉ lonerCodes) :
    (swapCodes code).flatMap swapCodes = [code] := by
  have hspared (htitle : code ∉ titleCodes) : code ∉ variantCodes ++ lonerCodes ++ titleCodes := by
    simp [hvariant, hloner, htitle]
  have hstays (h : swapCodes code = [code]) : (swapCodes code).flatMap swapCodes = [code] := by
    rw [h, List.flatMap_singleton, h]
  cases hupper : LetterSet.upperCase.contains code with
  | true =>
    have htitle : code ∉ titleCodes := fun h => by simp [(title_not_cased h).2] at hupper
    have hswap := swapCodes_upper hupper
    obtain ⟨run, hrun, hcovers, -, heq⟩ | ⟨image, himage, -⟩ | heq :=
      CaseMap.lower.codes_cases code
    · -- The run that makes the capital small is undone by one that makes it a capital again.
      obtain hin | hreturns := CaseRun.returns_of_isUndone (tablesAgree.lower_undone run hrun)
          upper_ascending hcovers
      · exact absurd hin (hspared htitle)
      · rw [hswap, heq, List.flatMap_singleton, swapCodes_of_returns_upper hreturns heq]
    · exact absurd (tablesAgree.lower_keys _ himage).2.1 hvariant
    · exact hstays (hswap.trans heq)
  | false =>
    cases hlower : LetterSet.lowerCase.contains code with
    | true =>
      have htitle : code ∉ titleCodes := fun h => by simp [(title_not_cased h).1] at hlower
      have hswap := swapCodes_lower hupper hlower
      obtain ⟨run, hrun, hcovers, -, heq⟩ | ⟨image, himage, -⟩ | heq :=
        CaseMap.upper.codes_cases code
      -- And the other way round for a small letter.
      · obtain hin | hreturns := CaseRun.returns_of_isUndone (tablesAgree.upper_undone run hrun)
            lower_ascending hcovers
        · exact absurd hin (hspared htitle)
        · rw [hswap, heq, List.flatMap_singleton, swapCodes_of_returns_lower hreturns heq]
      · have hlisted := listed_iff.mp (tablesAgree.upper_keys_listed _ himage).1
        exact absurd hlisted (by simp [hvariant, htitle])
      · exact hstays (hswap.trans heq)
    | false => exact hstays (by rw [swapCodes, hupper, hlower]; rfl)

/-- The upper case changes nothing but small letters and title case letters. -/
theorem upper_codes_of_not_small
    (hcase : LetterSet.upperCase.contains code = true ∨ LetterSet.lowerCase.contains code = false)
    (htitle : code ∉ titleCodes) : CaseMap.upper.codes code = [code] := by
  obtain ⟨run, hrun, hcovers, -, -⟩ | ⟨image, himage, -⟩ | heq := CaseMap.upper.codes_cases code
  · have hsource := upper_sources hrun hcovers
    simp_all
  · have hkey := upper_keys himage
    simp_all
  · exact heq

/-- The lower case changes nothing but capitals and title case letters. -/
theorem lower_codes_of_not_capital (h : LetterSet.upperCase.contains code = false)
    (htitle : code ∉ titleCodes) : CaseMap.lower.codes code = [code] := by
  obtain ⟨run, hrun, hcovers, -, -⟩ | ⟨image, himage, -⟩ | heq := CaseMap.lower.codes_cases code
  · have hsource := lower_sources hrun hcovers
    simp_all
  · have hkey := (tablesAgree.lower_keys _ himage).1
    simp_all
  · exact heq

/-- But for letters in title case, the other case is the image that differs. -/
theorem otherCase_eq (htitle : code ∉ titleCodes) : otherCase code = swapCodes code := by
  rw [otherCase, CaseMap.sortedCodes_eq lower_ascending, CaseMap.sortedCodes_eq upper_ascending]
  -- A capital is the image of no small letter, and a small one that of no capital, except in title
  -- case.
  cases hupper : LetterSet.upperCase.contains code with
  | true =>
    rw [swapCodes_upper hupper]
    split
    · next h => rw [h, upper_codes_of_not_small (.inl hupper) htitle]
    · rfl
  | false =>
    rw [if_pos (lower_codes_of_not_capital hupper htitle)]
    cases hlower : LetterSet.lowerCase.contains code with
    | true => exact (swapCodes_lower hupper hlower).symm
    | false =>
      rw [upper_codes_of_not_small (.inr hlower) htitle, swapCodes, hupper, hlower]
      rfl

/-- The images of a letter that is spelled otherwise come back when their case is changed twice. -/
theorem variant_swapped (h : code ∈ variantCodes) {image : Nat} (himage : image ∈ swapCodes code) :
    (swapCodes image).flatMap swapCodes = [image] := by
  obtain ⟨htitle, himages⟩ := tablesAgree.variant_images code h
  rw [← otherCase_eq (by simp [← listed_iff, htitle])] at himage
  have hlisted := himages image himage
  rw [Bool.eq_false_iff, ne_eq, listed_iff] at hlisted
  simp only [List.mem_append, not_or] at hlisted
  exact swapCodes_swapCodes hlisted.1.2 hlisted.2

/-- The other spelling of a letter has the same image under case folding. -/
theorem variant_folded (h : code ∈ variantCodes) :
    ((swapCodes code).flatMap swapCodes).flatMap CaseMap.fold.codes = CaseMap.fold.codes code := by
  obtain ⟨htitle, himages⟩ := tablesAgree.variant_images code h
  -- Neither the letter nor an image of it is in title case, so both notions of the other case
  -- agree.
  have hother : (swapCodes code).flatMap swapCodes = (otherCase code).flatMap otherCase := by
    rw [otherCase_eq (by simp [← listed_iff, htitle])]
    refine List.flatMap_congr fun image himage => (otherCase_eq fun hin => ?_).symm
    have hlisted := himages image (by rwa [otherCase_eq (by simp [← listed_iff, htitle])])
    rw [Bool.eq_false_iff, ne_eq, listed_iff] at hlisted
    exact hlisted (by simp [hin])
  rw [hother, ← CaseMap.sortedCodes_eq fold_ascending]
  exact tablesAgree.variant_folded code h

end

end TypeExport.Text
