import TypeExport.Name.Casing
import TypeExport.Proofs.Text.Replacing
import Mathlib.Tactic.Common

/-!
# Words of a name

A name is split into words by two replacements, one after the other: first a space is put where an
acronym meets a word, then where a small letter meets anything else.  Each of them takes the
characters on both sides of a border out of the text, so a border might be missed behind another
one, or the second replacement might find a border at a space that the first one put in.  Neither
happens: spaces stand exactly at the borders of the name itself.

* `wordEndsBefore`, `acronymEndsBefore` — the borders of a text, place by place.
* `spaced` — a text with a space at the places where a condition holds.
* `LocalBorder`, `spacedBehind`, `AgreesWith.spaced_eq` — the same along the text, where a border is
  known from the character in front of it and the text from there.
* `FindsBorders.substitute_eq` — a replacement misses no border.
* `spacedBehind_spacedBehind` — spaces put in first make no further borders.
* `splitWords_at_borders` — both replacements together.
-/

namespace TypeExport.Name

open Text

/-! ### Borders -/

/-- A small letter stands in front of the place, and another character at it. -/
def wordEndsBefore (text : List Char) (place : Nat) : Bool :=
  decide (0 < place) && text[place - 1]?.any isSmallLetter && text[place]?.any (!isSmallLetter ·)

/-- No small letter stands in front of the place or at it, but one behind it. -/
def acronymEndsBefore (text : List Char) (place : Nat) : Bool :=
  decide (0 < place) && text[place - 1]?.any (!isSmallLetter ·) &&
    text[place]?.any (!isSmallLetter ·) && text[place + 1]?.any isSmallLetter

/-- A character at its place, with a space in front of it if there is a border. -/
def spacedAt (border : Nat → Bool) (item : Char × Nat) : List Char :=
  if border item.2 then [' ', item.1] else [item.1]

/-- The text with a space at every place where the condition holds. -/
def spaced (border : Nat → Bool) (text : List Char) : List Char :=
  text.zipIdx.flatMap (spacedAt border)

/-- Nothing but spaces is put in. -/
theorem sublist_spaced (border : Nat → Bool) (text : List Char) :
    text.Sublist (spaced border text) := by
  have hfrom : ∀ start, text.Sublist ((text.zipIdx start).flatMap (spacedAt border)) := by
    induction text with
    | nil => intro start; exact List.Sublist.slnil
    | cons c text ih =>
      intro start
      rw [List.zipIdx_cons, List.flatMap_cons, spacedAt]
      split
      · exact .cons ' ' (.cons_cons c (ih (start + 1)))
      · exact .cons_cons c (ih (start + 1))
  exact hfrom 0

/-- A border between two characters that is known from them and the text behind them. -/
abbrev LocalBorder := Char → Char → List Char → Bool

/-- A small letter in front of any other character ends a word. -/
def endsWord : LocalBorder := fun before c _ => isSmallLetter before && !isSmallLetter c

/-- Behind a character that is no small letter, the last one before a small letter begins a word. -/
def endsAcronym : LocalBorder := fun before c rest =>
  !isSmallLetter before && !isSmallLetter c && rest.head?.any isSmallLetter

/-- The text behind a character with a space at each border. -/
def spacedBehind (border : LocalBorder) (before : Char) : List Char → List Char
  | [] => []
  | c :: rest => (if border before c rest then [' ', c] else [c]) ++ spacedBehind border c rest

/-- A condition on the places of a text is a border along it. -/
structure AgreesWith (borderAt : List Char → Nat → Bool) (border : LocalBorder) : Prop where
  start : ∀ text, borderAt text 0 = false
  behind : ∀ front before c rest,
    borderAt (front ++ before :: c :: rest) (front.length + 1) = border before c rest

/-- Spaces at the places of a text are spaces along it. -/
theorem AgreesWith.spaced_eq {borderAt : List Char → Nat → Bool} {border : LocalBorder}
    (h : AgreesWith borderAt border) (first : Char) (rest : List Char) :
    spaced (borderAt (first :: rest)) (first :: rest)
      = first :: spacedBehind border first rest := by
  -- The induction is on what is left of the text, behind the part whose length counts the places.
  have hbehind : ∀ text front before, text = front ++ before :: rest →
      (rest.zipIdx (front.length + 1)).flatMap (spacedAt (borderAt text))
        = spacedBehind border before rest := by
    intro text
    induction rest with
    | nil => intros; rfl
    | cons c rest ih =>
      intro front before htext
      have hrest := ih (front ++ [before]) c (by simpa using htext)
      rw [List.length_append, List.length_singleton] at hrest
      rw [List.zipIdx_cons, List.flatMap_cons, hrest, spacedAt, spacedBehind, htext, h.behind]
  have hrest := hbehind (first :: rest) [] first rfl
  rw [spaced, List.zipIdx_cons, List.flatMap_cons, spacedAt, h.start]
  exact congrArg (first :: ·) hrest

/-- Where a word ends is known from the two characters there. -/
theorem agreesWith_wordEndsBefore : AgreesWith wordEndsBefore endsWord where
  start := fun _ => rfl
  behind := fun front before c rest => by simp [wordEndsBefore, endsWord]

/-- Where an acronym ends is known from the two characters there and the next one. -/
theorem agreesWith_acronymEndsBefore : AgreesWith acronymEndsBefore endsAcronym where
  start := fun _ => rfl
  behind := by
    intro front before c rest
    have hbehind : (front ++ before :: c :: rest)[front.length + 1 + 1]? = rest.head? := by
      have hplace : front.length + 1 + 1 - front.length = 2 := by omega
      rw [List.getElem?_append_right (by omega), List.head?_eq_getElem?, hplace]
      rfl
    simp [acronymEndsBefore, endsAcronym, hbehind]

/-- Borders of either kind agree together. -/
theorem AgreesWith.or {borderAt borderAt' : List Char → Nat → Bool} {border border' : LocalBorder}
    (h : AgreesWith borderAt border) (h' : AgreesWith borderAt' border') :
    AgreesWith (fun text place => borderAt text place || borderAt' text place)
      (fun before c rest => border before c rest || border' before c rest) where
  start := fun text => by rw [h.start, h'.start]; rfl
  behind := fun front before c rest => by rw [h.behind, h'.behind]

/-! ### The two replacements -/

/-- A search finds the borders.  The part that it takes behind the first character has no other
border in it, and none begins at its last character, so nothing is missed where the part ends. -/
structure FindsBorders (find : List Char → Option Found) (border : LocalBorder) : Prop where
  single : ∀ before, find [before] = none
  passes : ∀ before c rest, border before c rest = false → find (before :: c :: rest) = none
  takes : ∀ before c rest, border before c rest = true → ∃ taken last behind,
    c :: rest = taken ++ behind ∧
    find (before :: c :: rest) = some ⟨taken.length + 1, before :: ' ' :: taken⟩ ∧
    spacedBehind border before (c :: rest) = ' ' :: taken ++ spacedBehind border last behind ∧
    ∀ d rest, border last d rest = false

/-- **No border is missed.**  A search that finds borders puts a space at every one of them. -/
theorem FindsBorders.substitute_eq {find : List Char → Option Found} {border : LocalBorder}
    (h : FindsBorders find border) (first : Char) (rest : List Char) :
    substitute find (first :: rest) = first :: spacedBehind border first rest := by
  induction hlength : rest.length using Nat.strong_induction_on generalizing first rest with
  | _ length ih =>
    subst hlength
    cases rest with
    | nil => rw [substitute_cons_of_none (h.single first)]; rfl
    | cons c rest =>
      cases hborder : border first c rest with
      | false =>
        rw [substitute_cons_of_none (h.passes first c rest hborder),
          ih _ (Nat.lt_succ_self _) c rest rfl, spacedBehind, hborder]
        rfl
      | true =>
        obtain ⟨taken, last, behind, hparts, hfind, hspaced, hlast⟩ := h.takes first c rest hborder
        -- Nothing begins at the last character that was taken, so the text goes on as behind it.
        have hbehind : substitute find behind = spacedBehind border last behind := by
          cases behind with
          | nil => rfl
          | cons d behind =>
            have hshorter : behind.length < (c :: rest).length := by
              rw [hparts, List.length_append, List.length_cons]
              omega
            rw [ih _ hshorter d behind rfl, spacedBehind, hlast]
            rfl
        rw [hspaced, ← hbehind]
        rw [hparts] at hfind ⊢
        have hne : first :: taken ≠ [] := List.cons_ne_nil _ _
        exact substitute_append_of_some hne hfind

/-- The part of an acronym that is taken ends with a small letter. -/
theorem findsBorders_acronymEnd : FindsBorders acronymEnd endsAcronym where
  single := fun _ => rfl
  passes := by
    intro before c rest hborder
    cases rest with
    | nil => rfl
    | cons d rest => exact if_neg (by simpa [endsAcronym] using hborder)
  takes := by
    intro before c rest hborder
    cases rest with
    | nil => simp [endsAcronym] at hborder
    | cons d rest =>
      have hparts := hborder
      simp only [endsAcronym, List.head?_cons, Option.any_some] at hparts
      have hsmall : isSmallLetter d = true := ((Bool.and_eq_true _ _).mp hparts).2
      refine ⟨[c, d], d, rest, rfl, if_pos hparts, ?_, by simp [endsAcronym, hsmall]⟩
      -- The small letter that was taken along ends no acronym itself.
      have hnone : endsAcronym c d rest = false := by simp [endsAcronym, hsmall]
      rw [spacedBehind, hborder, spacedBehind, hnone]
      rfl

/-- The part of a word that is taken ends with another character than a small letter. -/
theorem findsBorders_wordEnd : FindsBorders wordEnd endsWord where
  single := fun _ => rfl
  passes := fun before c rest hborder => if_neg (by simpa [endsWord] using hborder)
  takes := by
    intro before c rest hborder
    have hother : isSmallLetter c = false := by
      simpa [endsWord] using ((Bool.and_eq_true _ _).mp hborder).2
    refine ⟨[c], c, rest, rfl, if_pos hborder, ?_, by simp [endsWord, hother]⟩
    rw [spacedBehind, hborder]
    rfl

/-! ### One after the other -/

/-- A space is no small letter, and neither is what stands in front of one that was put in: the
second replacement leaves those spaces alone and finds the borders of the text itself. -/
theorem spacedBehind_spacedBehind (before : Char) (rest : List Char) :
    spacedBehind endsWord before (spacedBehind endsAcronym before rest)
      = spacedBehind (fun before c rest => endsWord before c rest || endsAcronym before c rest)
          before rest := by
  induction rest generalizing before with
  | nil => rfl
  | cons c rest ih =>
    rw [spacedBehind, spacedBehind]
    cases hacronym : endsAcronym before c rest with
    | false =>
      rw [Bool.or_false, ← ih c]
      rfl
    | true =>
      have hbefore : isSmallLetter before = false := by
        simp only [endsAcronym, Bool.and_eq_true, Bool.not_eq_true'] at hacronym
        exact hacronym.1.1
      have hspace : isSmallLetter ' ' = false := by decide
      simp [spacedBehind, endsWord, hbefore, hspace, ih c]

/-- Either replacement puts spaces at all borders of its kind and nowhere else. -/
theorem substitute_eq_spaced {find : List Char → Option Found} {border : LocalBorder}
    {borderAt : List Char → Nat → Bool} (hfinds : FindsBorders find border)
    (hagrees : AgreesWith borderAt border) (text : List Char) :
    substitute find text = spaced (borderAt text) text := by
  cases text with
  | nil => rfl
  | cons first rest => rw [hfinds.substitute_eq, hagrees.spaced_eq]

/-- A name is split by a space at each border of either kind. -/
theorem splitWordsChars_eq_spaced (name : List Char) :
    splitWordsChars name
      = spaced (fun place => wordEndsBefore name place || acronymEndsBefore name place) name := by
  cases name with
  | nil => rfl
  | cons first rest =>
    rw [splitWordsChars, findsBorders_acronymEnd.substitute_eq, findsBorders_wordEnd.substitute_eq,
      spacedBehind_spacedBehind]
    exact ((agreesWith_wordEndsBefore.or agreesWith_acronymEndsBefore).spaced_eq first rest).symm

/-- **Words of a name.**  A name in words is the name with one space at each of its borders, which
are where a small letter is followed by another character, and where two other characters are
followed by a small letter.  All characters of the name stay in their order.  Of the two
replacements each puts spaces at all borders of its kind and nowhere else. -/
theorem splitWords_at_borders (name : String) :
    (splitWords name).toList = spaced (fun place => wordEndsBefore name.toList place ||
      acronymEndsBefore name.toList place) name.toList ∧
    name.toList.Sublist (splitWords name).toList ∧
    ∀ text, substitute acronymEnd text = spaced (acronymEndsBefore text) text ∧
      substitute wordEnd text = spaced (wordEndsBefore text) text := by
  have hsplit := splitWordsChars_eq_spaced name.toList
  rw [splitWords, String.toList_ofList]
  refine ⟨hsplit, hsplit ▸ sublist_spaced _ name.toList, fun text => ⟨?_, ?_⟩⟩
  · exact substitute_eq_spaced findsBorders_acronymEnd agreesWith_acronymEndsBefore text
  · exact substitute_eq_spaced findsBorders_wordEnd agreesWith_wordEndsBefore text

/-- Digits and symbols count as what is no small letter. -/
example : splitWords "XMLFile2Of_3" = "XML File 2 Of _3" := by decide

end TypeExport.Name
