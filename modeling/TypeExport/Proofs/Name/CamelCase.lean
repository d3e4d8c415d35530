import TypeExport.Name.Casing
import Mathlib.Data.List.TakeWhile
import Mathlib.Tactic.Common

/-!
# Camel case

A name is brought into camel case from left to right, with one character looked at in advance.  What
comes of it depends on the run of capitals at its beginning alone: how long the run is, and whether
a blank, nothing or something else stands behind it.

* `capitals`, `lowered` — the length of the run, and how many of its characters become small.
* `lowerRun_eq` — the run behind the first capital.
* `camelCaseChars_eq` — the run from the beginning.
* `camelCase_lowers_acronym` — and a second time nothing changes in a name in ASCII.
-/

namespace TypeExport.Name

open Text

/-- How many capitals a name begins with. -/
def capitals (name : List Char) : Nat :=
  (name.takeWhile isUpper).length

/-- The run of capitals goes to the end of the name, or a blank stands behind it. -/
def endsWithRun (name : List Char) : Bool :=
  capitals name == name.length || name[capitals name]?.any isBlank

/-- How many characters become small: the capitals, without the last of several if it starts the
next word. -/
def lowered (name : List Char) : Nat :=
  if capitals name = 0 then 0
  else if capitals name = 1 ∨ endsWithRun name then capitals name
  else capitals name - 1

/-- The first characters of a name in small letters, and the others as they are. -/
def withLowered (count : Nat) (name : List Char) : List Char :=
  (name.take count).flatMap lowerChar ++ name.drop count

/-- Lowering no characters changes nothing. -/
theorem withLowered_zero (name : List Char) : withLowered 0 name = name := rfl

/-- Lowering one more lowers the first character. -/
theorem withLowered_succ (count : Nat) (c : Char) (rest : List Char) :
    withLowered (count + 1) (c :: rest) = lowerChar c ++ withLowered count rest := by
  simp [withLowered]

section

variable {c next : Char} {rest : List Char}

/-- A name that begins with no capital has no leading capitals. -/
theorem capitals_cons_of_not (h : isUpper c = false) : capitals (c :: rest) = 0 := by
  simp [capitals, h]

/-- A capital in front is one more. -/
theorem capitals_cons_of_upper (h : isUpper c = true) :
    capitals (c :: rest) = capitals rest + 1 := by
  simp [capitals, h]

/-- One more capital in front does not change what stands behind the run. -/
theorem endsWithRun_cons_of_upper (h : isUpper c = true) :
    endsWithRun (c :: rest) = endsWithRun rest := by
  simp [endsWithRun, capitals_cons_of_upper h]

/-- Without a capital in front, the run ends there only before a blank. -/
theorem endsWithRun_cons_of_not (h : isUpper c = false) :
    endsWithRun (c :: rest) = isBlank c := by
  simp [endsWithRun, capitals_cons_of_not h]

/-- Behind a first capital, even a single capital stays if it starts a word. -/
theorem lowerRun_eq (rest : List Char) :
    lowerRun rest
      = withLowered (if endsWithRun rest then capitals rest else capitals rest - 1) rest := by
  induction rest with
  | nil => rfl
  | cons c rest ih =>
    cases hupper : isUpper c with
    | false =>
      -- The run ended in front of this character.
      rw [capitals_cons_of_not hupper, ite_self, withLowered_zero]
      cases rest <;> simp [lowerRun, hupper]
    | true =>
      rw [capitals_cons_of_upper hupper, endsWithRun_cons_of_upper hupper]
      cases rest with
      | nil => simp [lowerRun, hupper, endsWithRun, capitals, withLowered]
      | cons next rest =>
        rw [lowerRun, hupper, if_neg (by decide)]
        cases hnext : isUpper next with
        | true =>
          have hcapitals : capitals (next :: rest) = capitals rest + 1 :=
            capitals_cons_of_upper hnext
          rw [if_pos rfl, ih, ← withLowered_succ]
          congr 1
          split <;> omega
        | false =>
          rw [if_neg (by decide), endsWithRun_cons_of_not hnext, capitals_cons_of_not hnext]
          split
          · rw [withLowered_succ, withLowered_zero]
          · rfl

/-- The characters that become small are the leading acronym. -/
theorem camelCaseChars_eq (name : List Char) :
    camelCaseChars name = withLowered (lowered name) name := by
  cases name with
  | nil => rfl
  | cons c rest =>
    cases hupper : isUpper c with
    | false => simp [camelCaseChars, lowered, hupper, capitals_cons_of_not hupper, withLowered_zero]
    | true =>
      -- The first capital becomes small anyway; the others do as long as no word begins with them.
      have hlowered : lowered (c :: rest)
          = (if endsWithRun rest then capitals rest else capitals rest - 1) + 1 := by
        rw [lowered, capitals_cons_of_upper hupper, endsWithRun_cons_of_upper hupper,
          if_neg (Nat.succ_ne_zero _)]
        cases endsWithRun rest with
        | true => simp
        | false =>
          simp only [Bool.false_eq_true, or_false, if_false]
          split <;> omega
      rw [camelCaseChars, hupper, if_pos rfl, lowerRun_eq, hlowered, withLowered_succ]

end

/-! ### A second time -/

/-- A name that begins with no capital stays as it is. -/
theorem camelCaseChars_of_not_upper {c : Char} {rest : List Char} (h : isUpper c = false) :
    camelCaseChars (c :: rest) = c :: rest := by
  simp [camelCaseChars, h]

/-- A capital in ASCII has a small letter that is no capital. -/
theorem isUpper_toLower {c : Char} (h : c.toNat < 128) : isUpper c.toLower = false := by
  have hall : ∀ code < 128, isUpper (Char.ofNat code).toLower = false := by decide +kernel
  simpa using hall c.toNat h

/-- The first character decides whether anything changes, and it is small after the first time. -/
theorem camelCaseChars_camelCaseChars {name : List Char} (h : ∀ c ∈ name, c.toNat < 128) :
    camelCaseChars (camelCaseChars name) = camelCaseChars name := by
  cases name with
  | nil => rfl
  | cons c rest =>
    cases hupper : isUpper c with
    | false => rw [camelCaseChars_of_not_upper hupper, camelCaseChars_of_not_upper hupper]
    | true =>
      have hascii : c.toNat < 128 := h c List.mem_cons_self
      have hfirst : camelCaseChars (c :: rest) = c.toLower :: lowerRun rest := by
        rw [camelCaseChars, if_pos hupper, lowerChar, if_pos hascii, List.singleton_append]
      rw [hfirst, camelCaseChars_of_not_upper (isUpper_toLower hascii)]

/-- **Camel case.**  Of the capitals that a name begins with, all become small if there is one, if
the name ends with them or if a blank follows; otherwise the last of them starts a word and stays.
Nothing else changes.  A name in ASCII is in camel case after that. -/
theorem camelCase_lowers_acronym (name : String) :
    (camelCase name).toList
      = (name.toList.take (lowered name.toList)).flatMap lowerChar
        ++ name.toList.drop (lowered name.toList) ∧
    ((∀ c ∈ name.toList, c.toNat < 128) → camelCase (camelCase name) = camelCase name) := by
  constructor
  · rw [camelCase, String.toList_ofList, camelCaseChars_eq, withLowered]
  · intro hascii
    rw [camelCase, camelCase, String.toList_ofList, camelCaseChars_camelCaseChars hascii]

/-- An acronym is lowered without the capital that starts the next word, and just once. -/
theorem camelCase_lowers_acronym_fooBar :
    (camelCase "FOOBar").toList = "fooBar".toList ∧
    camelCase (camelCase "FOOBar") = camelCase "FOOBar" := by
  obtain ⟨hchars, hagain⟩ := camelCase_lowers_acronym "FOOBar"
  have hascii : ∀ c ∈ ['F', 'O', 'O', 'B', 'a', 'r'], c.toNat < 128 := by simp
  exact ⟨hchars.trans (by decide), hagain hascii⟩

end TypeExport.Name
