import TypeExport.Name.Casing
import Mathlib.Tactic.Common

/-!
# Letters in lower case

The lower-case image of a character consists of letters, so a change of case brings no other marks
into a text.

* `Text.eq_or_le_of_mem_lowerChar` — an image in lower case is the character itself, or letters.
* `Name.mem_camelCaseChars` — the same of a name in camel case.
-/

namespace TypeExport

namespace Text

/-! ### Characters -/

/-- Not before `a` means a code of 97 or more. -/
theorem le_char_iff {c : Char} : 'a' ≤ c ↔ 97 ≤ c.toNat := Iff.rfl

/-- The small letter of an ASCII character is itself or not before `a`. -/
theorem eq_or_le_toLower {c : Char} (h : c.toNat < 128) : c.toLower = c ∨ 'a' ≤ c.toLower := by
  have hall : ∀ code < 128, (Char.ofNat code).toLower = Char.ofNat code ∨
      'a' ≤ (Char.ofNat code).toLower := by decide +kernel
  simpa using hall c.toNat h

/-- The runs move code points to letters; none of them reaches a surrogate. -/
theorem lower_runs : ∀ run ∈ CaseMap.lower.runs, (97 : Int) ≤ run.first + run.offset ∧
    (run.last + run.offset < 0xd800 ∨
      0xdfff < run.first + run.offset ∧ run.last + run.offset < 0x110000) := by
  decide +kernel

/-- What expands to several characters in lower case expands to none before `a`. -/
theorem lower_expansions : ∀ expansion ∈ CaseMap.lower.expansions, ∀ code ∈ expansion.2,
    'a' ≤ Char.ofNat code := by
  decide +kernel

/-- No run of the lower case leads before `a`. -/
theorem le_target {run : CaseRun} (hrun : run ∈ CaseMap.lower.runs) {code : Nat}
    (hcovers : run.covers code = true) : 'a' ≤ Char.ofNat (run.target code) := by
  obtain ⟨hfirst, hvalid⟩ := lower_runs run hrun
  simp only [CaseRun.covers, Bool.and_eq_true, decide_eq_true_eq] at hcovers
  have htarget : (run.target code).isValidChar := by
    unfold CaseRun.target Nat.isValidChar
    omega
  have hcode : (Char.ofNat (run.target code)).toNat = run.target code := by
    rw [Char.ofNat, dif_pos htarget]
    rfl
  rw [le_char_iff, hcode, CaseRun.target]
  omega

/-- An image in lower case is the character itself, or letters. -/
theorem eq_or_le_of_mem_lowerChar {c d : Char} (h : d ∈ lowerChar c) : d = c ∨ 'a' ≤ d := by
  unfold lowerChar at h
  -- Beyond ASCII a character has a run, an expansion or neither, and stays then.
  split at h
  · next hascii =>
    obtain rfl := List.mem_singleton.mp h
    exact eq_or_le_toLower hascii
  · unfold CaseMap.image at h
    split at h
    · next run hrun =>
      obtain rfl := List.mem_singleton.mp h
      have hcovers := List.find?_some hrun
      exact .inr (le_target (List.mem_of_find?_eq_some hrun) hcovers)
    · split at h
      · next codes hcodes =>
        obtain ⟨before, behind, heq, -⟩ := List.lookup_eq_some_iff.mp hcodes
        have hmem : (c.toNat, codes) ∈ CaseMap.lower.expansions :=
          heq ▸ List.mem_append_right before List.mem_cons_self
        obtain ⟨code, hcode, rfl⟩ := List.mem_map.mp h
        exact .inr (lower_expansions _ hmem code hcode)
      · exact .inl (List.mem_singleton.mp h)

end Text

namespace Name

/-! ### Names -/

/-- A character of a lowered name is one of the name or not before `a`. -/
theorem mem_lowered {c d : Char} {behind rest : List Char}
    (h : c ∈ Text.lowerChar d ++ behind) (hbehind : c ∈ behind → c ∈ rest ∨ 'a' ≤ c) :
    c ∈ d :: rest ∨ 'a' ≤ c := by
  obtain hd | hrest := List.mem_append.mp h
  · obtain rfl | hletter := Text.eq_or_le_of_mem_lowerChar hd
    · exact .inl List.mem_cons_self
    · exact .inr hletter
  · exact (hbehind hrest).imp_left (List.mem_cons_of_mem d)

/-- The same holds where only a run is lowered. -/
theorem mem_lowerRun {c : Char} {name : List Char} (h : c ∈ lowerRun name) :
    c ∈ name ∨ 'a' ≤ c := by
  -- The cases are those in which a run goes on: it looks one character ahead.
  induction name with
  | nil => exact .inl h
  | cons d rest ih =>
    cases rest with
    | nil =>
      rw [lowerRun] at h
      split at h
      · rw [← List.append_nil (Text.lowerChar d)] at h
        exact mem_lowered h .inl
      · exact .inl h
    | cons next rest =>
      rw [lowerRun] at h
      split at h
      · exact .inl h
      · split at h
        · exact mem_lowered h ih
        · split at h
          · exact mem_lowered h .inl
          · exact .inl h

/-- A name in camel case has the characters of the name, and letters. -/
theorem mem_camelCaseChars {c : Char} {name : List Char} (h : c ∈ camelCaseChars name) :
    c ∈ name ∨ 'a' ≤ c := by
  cases name with
  | nil => exact .inl h
  | cons d rest =>
    rw [camelCaseChars] at h
    split at h
    · exact mem_lowered h mem_lowerRun
    · exact .inl h

end Name

end TypeExport
