import TypeExport.Name.Casing
import TypeExport.Proofs.TypeScript.Scanning
import Mathlib.Tactic.Common

/-!
# Members for constants

The member of a constant has a capital where the declared name has an underscore in front of a
letter.  Nothing shows an underscore in front of a digit, or one at the end, so names that differ in
such underscores alone give the same member; no other names do.

* `IsConstantName` — capitals, digits and underscores, of which the first is a capital.
* `condensed` — a name without the underscores that do not show.
* `flatMap_declaredChars`, `constantMemberChars_condensedChars` — a member gives the condensed name
  back, and the condensed name gives the member.
* `constantMember_eq_iff` — which names give the same member.
-/

namespace TypeExport.Name

open Text TypeScript

/-! ### Characters -/

/-- A character of the names of constants. -/
def isConstantChar (c : Char) : Bool :=
  c.isUpper || c.isDigit || c == '_'

/-- The names of constants: capitals, digits and underscores, of which the first is a capital. -/
def IsConstantName (name : String) : Prop :=
  name.toList.all isConstantChar ∧ name.toList.head?.any Char.isUpper

instance (name : String) : Decidable (IsConstantName name) :=
  inferInstanceAs (Decidable (_ ∧ _))

/-- What stands in a name where its member has the character. -/
def declaredChars (c : Char) : List Char :=
  if c.isLower then [c.toUpper] else if c.isDigit then [c] else ['_', c]

/-- The characters of constants are ASCII. -/
theorem toNat_lt_of_isConstantChar {c : Char} (h : isConstantChar c) : c.toNat < 128 := by
  have hcases : c.isUpper ∨ c.isDigit ∨ c = '_' := by
    simpa [isConstantChar, or_assoc] using h
  -- Capitals end at 90, digits at 57, and the underscore is 95.
  obtain hupper | hdigit | rfl := hcases
  · have hcapital : c.val ≥ 65 ∧ c.val ≤ 90 := of_decide_eq_true hupper
    have hle : c.toNat ≤ 90 := UInt32.le_iff_toNat_le.mp hcapital.2
    omega
  · obtain ⟨-, hnine⟩ := (Bool.and_eq_true _ _).mp hdigit
    have hle : c.toNat ≤ 57 := UInt32.le_iff_toNat_le.mp (of_decide_eq_true hnine)
    omega
  · decide

/-- How a character of a constant stands in its member, and that it can be read off there. -/
structure KeepsCase (c : Char) : Prop where
  starts : upperChar c = [c]
  goesOn : lowerChar c = [c.toLower]
  startShown : declaredChars c = if c.isDigit then [c] else ['_', c]
  shown : c ≠ '_' → declaredChars c.toLower = [c]
  digit : c.isDigit → c ≠ '_' ∧ c.toLower = c ∧ ¬ c.isUpper
  isMember : isIdentifierChar c ∧ isIdentifierChar c.toLower

instance (c : Char) : Decidable (KeepsCase c) :=
  decidable_of_iff (upperChar c = [c] ∧ lowerChar c = [c.toLower] ∧
      declaredChars c = (if c.isDigit then [c] else ['_', c]) ∧
      (c ≠ '_' → declaredChars c.toLower = [c]) ∧
      (c.isDigit → c ≠ '_' ∧ c.toLower = c ∧ ¬ c.isUpper) ∧
      isIdentifierChar c ∧ isIdentifierChar c.toLower) ⟨
    fun ⟨hstarts, hgoesOn, hstartShown, hshown, hdigit, hmember⟩ =>
      ⟨hstarts, hgoesOn, hstartShown, hshown, hdigit, hmember⟩,
    fun h => ⟨h.starts, h.goesOn, h.startShown, h.shown, h.digit, h.isMember⟩⟩

/-- Capitals, digits and underscores are few, so they are checked one by one. -/
theorem keepsCase_of_isConstantChar {c : Char} (h : isConstantChar c) : KeepsCase c := by
  have hall : ∀ code < 128, isConstantChar (Char.ofNat code) → KeepsCase (Char.ofNat code) := by
    decide +kernel
  have hcode := hall c.toNat (toNat_lt_of_isConstantChar h)
  rw [Char.ofNat_toNat] at hcode
  exact hcode h

/-! ### Members -/

/-- The rest of a name without the underscores that do not show; `atStart` says that a word starts
here, behind an underscore that has not been written.  It is written in front of a word that starts
with anything but a digit. -/
def condensedChars (atStart : Bool) : List Char → List Char
  | [] => []
  | c :: rest =>
    if atStart then (if c.isDigit then [c] else ['_', c]) ++ condensedChars false rest
    else if c = '_' then condensedChars true rest
    else c :: condensedChars false rest

/-- A name without the underscores between words that stand in front of a digit or at the end. -/
def condensed (name : String) : String :=
  match name.toList with
  | [] => ""
  | c :: rest => .ofList (c :: condensedChars false rest)

section

variable {c : Char} {rest name : List Char}

/-- At the start of a word, a character stays. -/
theorem constantMemberChars_start (h : isConstantChar c) :
    constantMemberChars true (c :: rest) = c :: constantMemberChars false rest := by
  rw [constantMemberChars, if_pos rfl, (keepsCase_of_isConstantChar h).starts]
  rfl

/-- An underscore starts the next word. -/
theorem constantMemberChars_underscore :
    constantMemberChars false ('_' :: rest) = constantMemberChars true rest := by
  rw [constantMemberChars, if_neg Bool.false_ne_true, if_pos rfl]

/-- Inside a word, a character becomes small. -/
theorem constantMemberChars_goesOn (h : isConstantChar c) (hc : c ≠ '_') :
    constantMemberChars false (c :: rest) = c.toLower :: constantMemberChars false rest := by
  rw [constantMemberChars, if_neg Bool.false_ne_true, if_neg hc,
    (keepsCase_of_isConstantChar h).goesOn]
  rfl

/-- A member gives back the name without the underscores that do not show. -/
theorem flatMap_declaredChars (h : ∀ c ∈ name, isConstantChar c) (atStart : Bool) :
    (constantMemberChars atStart name).flatMap declaredChars = condensedChars atStart name := by
  -- The induction is on the name, with the question whether a word starts carried along.
  induction name generalizing atStart with
  | nil => rfl
  | cons c rest ih =>
    obtain ⟨hc, hrest⟩ := List.forall_mem_cons.mp h
    have hcase := keepsCase_of_isConstantChar hc
    cases atStart with
    | true =>
      rw [constantMemberChars_start hc, List.flatMap_cons, hcase.startShown, ih hrest]
      rfl
    | false =>
      by_cases hunderscore : c = '_'
      · -- An underscore writes nothing; the next character shows that a word starts there.
        subst hunderscore
        rw [constantMemberChars_underscore, ih hrest]
        rfl
      · rw [constantMemberChars_goesOn hc hunderscore, List.flatMap_cons, hcase.shown hunderscore,
          ih hrest, condensedChars, if_neg Bool.false_ne_true, if_neg hunderscore]
        rfl

/-- The underscores that were left out do not show in the member. -/
theorem constantMemberChars_condensedChars (h : ∀ c ∈ name, isConstantChar c) (atStart : Bool) :
    constantMemberChars false (condensedChars atStart name)
      = constantMemberChars atStart name := by
  induction name generalizing atStart with
  | nil => rfl
  | cons c rest ih =>
    obtain ⟨hc, hrest⟩ := List.forall_mem_cons.mp h
    cases atStart with
    | true =>
      rw [condensedChars, if_pos rfl, constantMemberChars_start hc]
      by_cases hdigit : c.isDigit
      · -- A digit starts a word as it goes on with one.
        obtain ⟨hunderscore, hlower, -⟩ := (keepsCase_of_isConstantChar hc).digit hdigit
        rw [if_pos hdigit, List.singleton_append, constantMemberChars_goesOn hc hunderscore,
          ih hrest, hlower]
      · rw [if_neg hdigit, List.cons_append, List.singleton_append,
          constantMemberChars_underscore, constantMemberChars_start hc, ih hrest]
    | false =>
      -- An underscore only sets the mark that a word starts.
      by_cases hunderscore : c = '_'
      · subst hunderscore
        rw [constantMemberChars_underscore, ← ih hrest true]
        rfl
      · rw [condensedChars, if_neg Bool.false_ne_true, if_neg hunderscore,
          constantMemberChars_goesOn hc hunderscore, constantMemberChars_goesOn hc hunderscore,
          ih hrest]

/-- The name of a constant becomes one of identifier characters. -/
theorem isIdentifierChar_of_mem_constantMemberChars (h : ∀ c ∈ name, isConstantChar c)
    {atStart : Bool} {d : Char} (hd : d ∈ constantMemberChars atStart name) :
    isIdentifierChar d := by
  induction name generalizing atStart with
  | nil => cases hd
  | cons c rest ih =>
    obtain ⟨hc, hrest⟩ := List.forall_mem_cons.mp h
    -- A character is written as it is or in lower case, and both may stand in an identifier.
    obtain ⟨hsame, hlower⟩ := (keepsCase_of_isConstantChar hc).isMember
    cases atStart with
    | true =>
      rw [constantMemberChars_start hc, List.mem_cons] at hd
      obtain rfl | hd := hd
      · exact hsame
      · exact ih hrest hd
    | false =>
      by_cases hunderscore : c = '_'
      · subst hunderscore
        rw [constantMemberChars_underscore] at hd
        exact ih hrest hd
      · rw [constantMemberChars_goesOn hc hunderscore, List.mem_cons] at hd
        obtain rfl | hd := hd
        · exact hlower
        · exact ih hrest hd

end

/-! ### Names -/

namespace IsConstantName

variable {name other : String}

/-- The capital that a name begins with, and the characters behind it. -/
theorem exists_toList (h : IsConstantName name) : ∃ c rest, name.toList = c :: rest ∧
    c.isUpper ∧ isConstantChar c ∧ ∀ d ∈ rest, isConstantChar d := by
  obtain ⟨hchars, hhead⟩ := h
  cases hname : name.toList with
  | nil => simp [hname] at hhead
  | cons c rest =>
    rw [hname] at hchars hhead
    obtain ⟨hc, hrest⟩ := List.forall_mem_cons.mp (List.all_eq_true.mp hchars)
    exact ⟨c, rest, rfl, hhead, hc, hrest⟩

/-- The member of a constant is an identifier. -/
theorem isIdentifier_constantMember (h : IsConstantName name) :
    IsIdentifier (constantMember name) := by
  obtain ⟨c, rest, hname, hupper, hc, hrest⟩ := h.exists_toList
  have hall : ∀ d ∈ name.toList, isConstantChar d := by
    rw [hname]
    exact List.forall_mem_cons.mpr ⟨hc, hrest⟩
  unfold IsIdentifier constantMember
  rw [String.toList_ofList]
  constructor
  · exact List.all_eq_true.mpr fun d hd => isIdentifierChar_of_mem_constantMemberChars hall hd
  -- The capital that begins the name is no digit.
  · have hnot : ¬ c.isDigit := fun hdigit =>
      ((keepsCase_of_isConstantChar hc).digit hdigit).2.2 hupper
    rw [hname, constantMemberChars_start hc]
    simpa using hnot

/-- **Shared members.**  Two constants have the same member exactly if their names are equal without
the underscores between words that stand in front of a digit or at the end. -/
theorem constantMember_eq_iff (h : IsConstantName name) (hother : IsConstantName other) :
    constantMember name = constantMember other ↔ condensed name = condensed other := by
  obtain ⟨c, rest, hname, -, hc, hrest⟩ := h.exists_toList
  obtain ⟨d, others, hothers, -, hd, hothersChars⟩ := hother.exists_toList
  unfold constantMember condensed
  rw [hname, hothers, constantMemberChars_start hc, constantMemberChars_start hd]
  simp only [String.ofList_inj, List.cons.injEq, and_congr_right_iff]
  -- The first character is the same; the two maps translate between the rests.
  rintro -
  constructor
  · intro heq
    rw [← flatMap_declaredChars hrest false, ← flatMap_declaredChars hothersChars false, heq]
  · intro heq
    rw [← constantMemberChars_condensedChars hrest false,
      ← constantMemberChars_condensedChars hothersChars false, heq]

end IsConstantName

end TypeExport.Name
