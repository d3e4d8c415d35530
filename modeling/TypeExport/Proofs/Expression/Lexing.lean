import TypeExport.Expression.Token
import TypeExport.Proofs.Outcome
import Mathlib.Tactic.Common

/-!
# The tokens of a text

`Token.scan` walks over a text character by character.  This file states what it finds without
walking: a text is divided into blanks, symbols and dotted names, and each name reaches as far as
a name can.

* `IsDottedName` — segments with dots between them, the form of a name in the grammar.
* `IsLongestName word rest` — no dotted name at the head of `word ++ rest` is longer than `word`.
* `Lexes text kinds` — the text is divided into tokens of these kinds, with blanks around them.
* `nameLength_append` — `nameLength` finds the longest name.
* `text_induction` — induction over a text from token to token, with `IsStray` for the characters
  that start none.
* `lexes_iff_scan` — the scanner succeeds exactly on the texts that can be divided, with the tokens
  of the division; hence a text can be divided in one way only (`Lexes.unique`).
-/

namespace TypeExport.Expression

/-! ### Dotted names -/

/-- A segment of a name: a letter or underscore, then letters, digits and underscores. -/
def IsSegment (text : List Char) : Prop :=
  ∃ first rest, text = first :: rest ∧ startsName first ∧ ∀ c ∈ rest, continuesName c

instance (text : List Char) : Decidable (IsSegment text) :=
  match text with
  | [] => isFalse (by rintro ⟨first, rest, h, -⟩; cases h)
  | first :: rest =>
    decidable_of_iff (startsName first ∧ rest.all continuesName) (by
      rw [List.all_eq_true]
      constructor
      · exact fun h => ⟨first, rest, rfl, h⟩
      · rintro ⟨_, _, h, hfirst, hrest⟩
        cases h
        exact ⟨hfirst, hrest⟩)

/-- Segments with dots between them. -/
def IsDottedName (text : List Char) : Prop :=
  ∃ first : List Char, ∃ others : List (List Char), IsSegment first ∧
    (∀ segment ∈ others, IsSegment segment) ∧ text = first ++ others.flatMap ('.' :: ·)

/-- What may stand behind the first character of a dotted name. -/
def IsNameTail (text : List Char) : Prop :=
  ∃ tail : List Char, ∃ others : List (List Char), (∀ c ∈ tail, continuesName c) ∧
    (∀ segment ∈ others, IsSegment segment) ∧ text = tail ++ others.flatMap ('.' :: ·)

/-- One segment is a dotted name. -/
theorem IsSegment.isDottedName {text : List Char} (h : IsSegment text) : IsDottedName text :=
  ⟨text, [], h, by simp, by simp⟩

/-- What starts a name also continues one. -/
theorem continuesName_of_startsName {c : Char} (h : startsName c) : continuesName c := by
  simp [continuesName, h]

/-- A dot starts and continues no segment; it only stands between two. -/
theorem continuesName_dot : continuesName '.' = false := by decide

/-- A name may end behind its first character. -/
theorem isNameTail_nil : IsNameTail [] :=
  ⟨[], [], by simp, by simp, rfl⟩

/-- The segment of a tail may begin earlier. -/
theorem IsNameTail.cons {c : Char} {rest : List Char} (hc : continuesName c)
    (h : IsNameTail rest) : IsNameTail (c :: rest) := by
  obtain ⟨tail, others, htail, hothers, rfl⟩ := h
  exact ⟨c :: tail, others, List.forall_mem_cons.mpr ⟨hc, htail⟩, hothers, rfl⟩

/-- Behind a dot, the first segment of a tail is a whole one if it starts like one. -/
theorem IsNameTail.dot {next : Char} {rest : List Char} (hnext : startsName next)
    (h : IsNameTail (next :: rest)) : IsNameTail ('.' :: next :: rest) := by
  obtain ⟨tail, others, htail, hothers, htext⟩ := h
  cases tail with
  | nil =>
    -- Then the rest would start with a dot, which starts no segment.
    cases others with
    | nil => simp at htext
    | cons segment others =>
      rw [List.nil_append, List.flatMap_cons, List.cons_append, List.cons.injEq] at htext
      obtain ⟨rfl, -⟩ := htext
      exact absurd hnext (by decide)
  | cons first tail =>
    rw [List.cons_append, List.cons.injEq] at htext
    obtain ⟨rfl, rfl⟩ := htext
    have hsegment : IsSegment (next :: tail) :=
      ⟨next, tail, rfl, hnext, (List.forall_mem_cons.mp htail).2⟩
    exact ⟨[], (next :: tail) :: others, nofun, List.forall_mem_cons.mpr ⟨hsegment, hothers⟩, rfl⟩

/-- A tail goes on with a character of its segment, or with a dot and another segment. -/
theorem isNameTail_cons_iff (c : Char) (rest : List Char) :
    IsNameTail (c :: rest) ↔
      (continuesName c ∧ IsNameTail rest) ∨
        (c = '.' ∧ IsNameTail rest ∧ ∃ next ∈ rest.head?, startsName next) := by
  constructor
  · rintro ⟨tail, others, htail, hothers, htext⟩
    cases tail with
    | cons d tail =>
      rw [List.cons_append, List.cons.injEq] at htext
      obtain ⟨rfl, rfl⟩ := htext
      obtain ⟨hc, htail⟩ := List.forall_mem_cons.mp htail
      exact .inl ⟨hc, tail, others, htail, hothers, rfl⟩
    | nil =>
      cases others with
      | nil => simp at htext
      | cons segment others =>
        -- The dot is followed by a whole segment, whose characters all continue a name.
        obtain ⟨hsegment, hfollowing⟩ := List.forall_mem_cons.mp hothers
        obtain ⟨next, more, rfl, hnext, hmore⟩ := hsegment
        simp only [List.nil_append, List.flatMap_cons, List.cons_append, List.cons.injEq] at htext
        obtain ⟨rfl, rfl⟩ := htext
        have hkept : ∀ c ∈ next :: more, continuesName c :=
          List.forall_mem_cons.mpr ⟨continuesName_of_startsName hnext, hmore⟩
        exact .inr ⟨rfl, ⟨next :: more, others, hkept, hfollowing, rfl⟩, next, rfl, hnext⟩
  · rintro (⟨hc, h⟩ | ⟨rfl, h, next, hnext, hstart⟩)
    · exact h.cons hc
    · obtain ⟨rest, rfl⟩ := List.head?_eq_some_iff.mp hnext
      exact h.dot hstart

/-- A dotted name is a first character and what may follow it. -/
theorem isDottedName_cons_iff (c : Char) (rest : List Char) :
    IsDottedName (c :: rest) ↔ startsName c ∧ IsNameTail rest := by
  constructor
  · rintro ⟨_, others, ⟨first, tail, rfl, hfirst, htail⟩, hothers, htext⟩
    rw [List.cons_append, List.cons.injEq] at htext
    obtain ⟨rfl, rfl⟩ := htext
    exact ⟨hfirst, tail, others, htail, hothers, rfl⟩
  · rintro ⟨hc, tail, others, htail, hothers, rfl⟩
    exact ⟨c :: tail, others, ⟨c, tail, rfl, hc, htail⟩, hothers, rfl⟩

/-- The empty text is no dotted name. -/
theorem not_isDottedName_nil : ¬ IsDottedName [] := by
  rintro ⟨_, others, ⟨first, tail, rfl, -, -⟩, -, htext⟩
  simp at htext

/-! ### The longest name at the head of a text -/

/-- What `nameRest` counts is a tail. -/
theorem isNameTail_take_nameRest (text : List Char) : IsNameTail (text.take (nameRest text)) := by
  fun_induction nameRest text with
  | case1 => exact isNameTail_nil
  | case2 c rest hc ih =>
    rw [List.take_succ_cons, isNameTail_cons_iff]
    exact .inl ⟨hc, ih⟩
  | case3 hdot => exact isNameTail_nil
  -- A dot counts only with the first character of a segment behind it.
  | case4 next rest hnext hdot ih =>
    rw [List.take_succ_cons, isNameTail_cons_iff]
    refine .inr ⟨rfl, ih, next, ?_, hnext⟩
    simp [nameRest, continuesName_of_startsName hnext]
  | case5 next rest hnext hdot => exact isNameTail_nil
  | case6 c rest hc hdot => exact isNameTail_nil

/-- A name does not go on behind the end of the text. -/
theorem nameRest_le_length (text : List Char) : nameRest text ≤ text.length := by
  fun_induction nameRest text <;> simp_all

/-- No tail at the head of a text is longer than what `nameRest` counts. -/
theorem IsNameTail.length_le {tail text : List Char} (htail : IsNameTail tail)
    (hhead : tail <+: text) : tail.length ≤ nameRest text := by
  induction text generalizing tail with
  | nil => simp [List.prefix_nil.mp hhead]
  | cons c rest ih =>
    cases tail with
    | nil => simp
    | cons d tail =>
      rw [List.cons_prefix_cons] at hhead
      obtain ⟨rfl, hrest⟩ := hhead
      rcases (isNameTail_cons_iff d tail).mp htail with ⟨hd, ht⟩ | ⟨rfl, ht, next, hnext, hstart⟩
      · simpa [nameRest, hd] using ih ht hrest
      · cases tail with
        | nil => simp at hnext
        | cons first tail =>
          -- The dot counts because the segment behind it is in the text as well.
          obtain rfl : first = next := by simpa using hnext
          cases rest with
          | nil => simp at hrest
          | cons head rest =>
            obtain rfl : first = head := (List.cons_prefix_cons.mp hrest).1
            have hle := ih ht hrest
            simpa [nameRest, continuesName_dot, hstart] using hle

/-- The word is a dotted name and no dotted name at the head of the text is longer. -/
def IsLongestName (word rest : List Char) : Prop :=
  IsDottedName word ∧
    ∀ longer, longer <+: word ++ rest → IsDottedName longer → longer.length ≤ word.length

/-- A longest name is not empty. -/
theorem IsLongestName.length_pos {word rest : List Char} (h : IsLongestName word rest) :
    0 < word.length := by
  cases word with
  | nil => exact absurd h.1 not_isDottedName_nil
  | cons c tail => simp

/-- No dotted name at the head of a text is longer than `nameLength`. -/
theorem IsDottedName.length_le {word text : List Char} (hword : IsDottedName word)
    (hhead : word <+: text) : word.length ≤ nameLength text := by
  cases word with
  | nil => simp
  | cons c tail =>
    obtain ⟨hc, htail⟩ := (isDottedName_cons_iff c tail).mp hword
    cases text with
    | nil => simp at hhead
    | cons d rest =>
      rw [List.cons_prefix_cons] at hhead
      obtain ⟨rfl, hrest⟩ := hhead
      simpa [nameLength, hc] using htail.length_le hrest

/-- A name is no longer than the text. -/
theorem nameLength_le_length (text : List Char) : nameLength text ≤ text.length := by
  cases text with
  | nil => simp [nameLength]
  | cons c rest =>
    have hrest := nameRest_le_length rest
    by_cases hc : startsName c <;> simp [nameLength, hc, hrest]

/-- A positive `nameLength` is the length of the longest dotted name. -/
theorem isLongestName_take {text : List Char} (h : nameLength text ≠ 0) :
    IsLongestName (text.take (nameLength text)) (text.drop (nameLength text)) := by
  cases text with
  | nil => exact absurd rfl h
  | cons c rest =>
    have hc : startsName c := by
      by_contra hc
      exact h (by simp [nameLength, hc])
    have hlength : nameLength (c :: rest) = nameRest rest + 1 := by simp [nameLength, hc]
    refine ⟨?_, ?_⟩
    · rw [hlength, List.take_succ_cons, isDottedName_cons_iff]
      exact ⟨hc, isNameTail_take_nameRest rest⟩
    -- What is found is as long as any name there.
    · intro longer hhead hlonger
      rw [List.take_append_drop] at hhead
      have hle := hlonger.length_le hhead
      have htake := hhead.length_le
      rw [List.length_take]
      omega

/-- **Longest match.** `nameLength` finds exactly the longest dotted name. -/
theorem nameLength_append {word rest : List Char} (h : IsLongestName word rest) :
    nameLength (word ++ rest) = word.length := by
  -- The word is one of the names at the head of the text, and what `nameLength` finds is another:
  -- neither is longer than the other.
  have hge : word.length ≤ nameLength (word ++ rest) := h.1.length_le (List.prefix_append word rest)
  have hpos := h.length_pos
  have hfound := @isLongestName_take (word ++ rest) (by omega)
  have hlen := h.2 _ (List.take_prefix _ _) hfound.1
  rw [List.length_take] at hlen
  have hbound := nameLength_le_length (word ++ rest)
  omega

/-! ### Dividing a text into tokens -/

/-- The text is divided into tokens of these kinds, with any blanks around them.  A name is as long
as a name can be where it stands. -/
inductive Lexes : List Char → List TokenKind → Prop
  | nil : Lexes [] []
  | blank {c : Char} {rest : List Char} {kinds : List TokenKind} :
      Text.isBlank c → Lexes rest kinds → Lexes (c :: rest) kinds
  | symbol {c : Char} {rest : List Char} {kinds : List TokenKind} :
      c ∈ symbols → Lexes rest kinds → Lexes (c :: rest) (.symbol c :: kinds)
  | name {word rest : List Char} {kinds : List TokenKind} :
      IsLongestName word rest → Lexes rest kinds →
        Lexes (word ++ rest) (.name (.ofList word) :: kinds)

/-- No character of a name is blank or a symbol, so the scanner may try the three in any order. -/
theorem not_blank_of_continues_or_dot {c : Char} (h : continuesName c ∨ c = '.') :
    Text.isBlank c = false ∧ c ∉ symbols := by
  -- The three kinds of characters are told apart by their codes.
  have hcode : (65 ≤ c.toNat ∧ c.toNat ≤ 90) ∨ (97 ≤ c.toNat ∧ c.toNat ≤ 122) ∨ c.toNat = 95 ∨
      (48 ≤ c.toNat ∧ c.toNat ≤ 57) ∨ c.toNat = 46 := by
    simp only [continuesName, startsName, Bool.or_eq_true, Bool.and_eq_true, decide_eq_true_eq,
      beq_iff_eq] at h
    rcases h with (((⟨hlo, hhi⟩ | ⟨hlo, hhi⟩) | rfl) | ⟨hlo, hhi⟩) | rfl
    · exact .inl ⟨hlo, hhi⟩
    · exact .inr (.inl ⟨hlo, hhi⟩)
    · exact .inr (.inr (.inl rfl))
    · exact .inr (.inr (.inr (.inl ⟨hlo, hhi⟩)))
    · exact .inr (.inr (.inr (.inr rfl)))
  constructor
  · simp only [Text.isBlank, Bool.or_eq_false_iff, Bool.and_eq_false_iff, decide_eq_false_iff_not,
      beq_eq_false_iff_ne]
    omega
  · simp only [symbols, List.mem_cons, List.not_mem_nil, or_false]
    rintro (rfl | rfl | rfl | rfl | rfl | rfl) <;> revert hcode <;> decide

/-- A name does not start with a blank. -/
theorem IsLongestName.head_not_blank {word rest : List Char} (h : IsLongestName word rest) :
    ∀ c ∈ (word ++ rest).head?, Text.isBlank c = false := by
  cases word with
  | nil => exact absurd h.1 not_isDottedName_nil
  | cons c tail =>
    have hstart := ((isDottedName_cons_iff c tail).mp h.1).1
    intro d hd
    obtain rfl := Option.some.inj hd
    exact (not_blank_of_continues_or_dot (.inl (continuesName_of_startsName hstart))).1

/-- A symbol is not blank. -/
theorem not_blank_of_symbol {c : Char} (h : c ∈ symbols) : Text.isBlank c = false := by
  simp only [symbols, List.mem_cons, List.not_mem_nil, or_false] at h
  rcases h with rfl | rfl | rfl | rfl | rfl | rfl <;> decide

/-- The character starts no token and is not blank. -/
def IsStray (c : Char) (rest : List Char) : Prop :=
  Text.isBlank c = false ∧ c ∉ symbols ∧ ∀ word, word <+: c :: rest → ¬ IsDottedName word

/-- **Induction over a text.**  A text starts with a blank, a symbol, a name or a stray
character. -/
theorem text_induction {motive : List Char → Prop} (nil : motive [])
    (blank : ∀ c rest, Text.isBlank c → motive rest → motive (c :: rest))
    (symbol : ∀ c rest, c ∈ symbols → motive rest → motive (c :: rest))
    (name : ∀ word rest, IsLongestName word rest → motive rest → motive (word ++ rest))
    (stray : ∀ c rest, IsStray c rest → motive (c :: rest)) (text : List Char) : motive text := by
  -- The rest behind a name is a shorter text, but not the tail of the text.
  induction hlength : text.length using Nat.strongRecOn generalizing text with
  | ind length ih =>
    cases text with
    | nil => exact nil
    | cons c rest =>
      rw [List.length_cons] at hlength
      by_cases hblank : Text.isBlank c
      · exact blank c rest hblank (ih rest.length (by omega) rest rfl)
      by_cases hsymbol : c ∈ symbols
      · exact symbol c rest hsymbol (ih rest.length (by omega) rest rfl)
      by_cases hname : nameLength (c :: rest) = 0
      · refine stray c rest ⟨by simpa using hblank, hsymbol, fun word hword hdotted => ?_⟩
        have hle := hdotted.length_le hword
        obtain rfl := List.length_eq_zero_iff.mp (by omega : word.length = 0)
        exact not_isDottedName_nil hdotted
      · have hlongest := isLongestName_take hname
        have hshort : ((c :: rest).drop (nameLength (c :: rest))).length < length := by
          rw [List.length_drop, List.length_cons]
          omega
        have hmotive := name _ _ hlongest (ih _ hshort _ rfl)
        rwa [List.take_append_drop] at hmotive

namespace Token

/-- Passing over characters is dropping them. -/
theorem scanFrom_skip (skip column : Nat) (text : List Char) :
    scanFrom skip column text = scanFrom 0 (column + skip) (text.drop skip) := by
  induction text generalizing skip column with
  | nil => simp [scanFrom]
  | cons c rest ih =>
    cases skip with
    | zero => rfl
    | succ skip =>
      rw [scanFrom, ih skip (column + 1), List.drop_succ_cons, Nat.add_assoc, Nat.add_comm 1 skip]

/-- A blank is passed over. -/
theorem scanFrom_blank {c : Char} (h : Text.isBlank c) (column : Nat) (rest : List Char) :
    scanFrom 0 column (c :: rest) = scanFrom 0 (column + 1) rest := by
  rw [scanFrom, if_pos h]

/-- A symbol is a token of its own. -/
theorem scanFrom_symbol {c : Char} (h : c ∈ symbols) (column : Nat) (rest : List Char) :
    scanFrom 0 column (c :: rest)
      = (scanFrom 0 (column + 1) rest).map (⟨.symbol c, column⟩ :: ·) := by
  rw [scanFrom, if_neg (by simp [not_blank_of_symbol h]), if_pos (by simpa using h)]
  cases scanFrom 0 (column + 1) rest <;> rfl

/-- A longest name is one token. -/
theorem scanFrom_name {word rest : List Char} (h : IsLongestName word rest) (column : Nat) :
    scanFrom 0 column (word ++ rest)
      = (scanFrom 0 (column + word.length) rest).map (⟨.name (.ofList word), column⟩ :: ·) := by
  have hlength := nameLength_append h
  cases word with
  | nil => exact absurd h.1 not_isDottedName_nil
  | cons c tail =>
    have hstart := ((isDottedName_cons_iff c tail).mp h.1).1
    obtain ⟨hblank, hsymbol⟩ :=
      not_blank_of_continues_or_dot (.inl (continuesName_of_startsName hstart))
    rw [List.cons_append, scanFrom, if_neg (by simp [hblank]), if_neg (by simpa using hsymbol),
      ← List.cons_append, hlength]
    simp only [List.length_cons]
    -- The scanner has passed the first character; the others of the word are still to be skipped.
    rw [scanFrom_skip, List.take_append_of_le_length (by simp), List.take_of_length_le (by simp),
      List.drop_append_of_le_length (by simp), List.drop_of_length_le (by simp), List.nil_append,
      Nat.add_assoc, Nat.add_comm 1 tail.length]
    cases scanFrom 0 (column + (tail.length + 1)) rest <;> rfl

/-- At a stray character, scanning fails with it. -/
theorem scanFrom_stray {c : Char} {rest : List Char} (h : IsStray c rest) (column : Nat) :
    scanFrom 0 column (c :: rest) = .error ⟨c, column⟩ := by
  obtain ⟨hblank, hsymbol, hname⟩ := h
  have hlength : nameLength (c :: rest) = 0 := by
    by_contra hne
    exact hname _ (List.take_prefix _ _) (isLongestName_take hne).1
  rw [scanFrom, if_neg (by simp [hblank]), if_neg (by simpa using hsymbol), hlength]

/-- **Soundness.** Whatever the scanner returns divides the text. -/
theorem lexes_of_scanFrom (text : List Char) (column : Nat) (tokens : List Token)
    (h : scanFrom 0 column text = .ok tokens) : Lexes text (tokens.map (·.kind)) := by
  -- The induction is over what the text starts with, which the scanner tries in the same order.
  induction text using text_induction generalizing column tokens with
  | nil =>
    obtain rfl : [] = tokens := by simpa [scanFrom] using h
    exact .nil
  | blank c rest hblank ih =>
    rw [scanFrom_blank hblank] at h
    exact .blank hblank (ih _ tokens h)
  | symbol c rest hsymbol ih =>
    rw [scanFrom_symbol hsymbol] at h
    obtain ⟨others, hothers, rfl⟩ := Except.map_eq_ok_iff.mp h
    exact .symbol hsymbol (ih _ others hothers)
  | name word rest hlongest ih =>
    rw [scanFrom_name hlongest] at h
    obtain ⟨others, hothers, rfl⟩ := Except.map_eq_ok_iff.mp h
    exact .name hlongest (ih _ others hothers)
  | stray c rest hstray =>
    rw [scanFrom_stray hstray] at h
    cases h

end Token

/-- **Completeness.** The scanner finds every division of a text, whatever column it starts from. -/
theorem Lexes.scanFrom {text : List Char} {kinds : List TokenKind} (h : Lexes text kinds)
    (column : Nat) :
    ∃ tokens, Token.scanFrom 0 column text = .ok tokens ∧ tokens.map (·.kind) = kinds := by
  -- The induction is on the division; the column only says where a token begins.
  induction h generalizing column with
  | nil => exact ⟨[], rfl, rfl⟩
  | blank hblank _ ih =>
    obtain ⟨tokens, hscan, hkinds⟩ := ih (column + 1)
    exact ⟨tokens, by rw [Token.scanFrom_blank hblank, hscan], hkinds⟩
  | @symbol c rest kinds hsymbol _ ih =>
    obtain ⟨tokens, hscan, hkinds⟩ := ih (column + 1)
    refine ⟨⟨.symbol c, column⟩ :: tokens, ?_, by simp [hkinds]⟩
    rw [Token.scanFrom_symbol hsymbol, hscan]
    rfl
  | @name word rest kinds hlongest _ ih =>
    obtain ⟨tokens, hscan, hkinds⟩ := ih (column + word.length)
    refine ⟨⟨.name (.ofList word), column⟩ :: tokens, ?_, by simp [hkinds]⟩
    rw [Token.scanFrom_name hlongest, hscan]
    rfl

/-- **The scanner decides division.** -/
theorem lexes_iff_scan (text : List Char) (kinds : List TokenKind) :
    Lexes text kinds ↔ ∃ tokens, Token.scan text = .ok tokens ∧ tokens.map (·.kind) = kinds := by
  constructor
  · intro h
    exact h.scanFrom 1
  · rintro ⟨tokens, hscan, rfl⟩
    exact Token.lexes_of_scanFrom text 1 tokens hscan

/-- A text can be divided in one way only. -/
theorem Lexes.unique {text : List Char} {kinds kinds' : List TokenKind} (h : Lexes text kinds)
    (h' : Lexes text kinds') : kinds = kinds' := by
  obtain ⟨tokens, hscan, rfl⟩ := (lexes_iff_scan text kinds).mp h
  obtain ⟨tokens', hscan', rfl⟩ := (lexes_iff_scan text kinds').mp h'
  rw [hscan, Except.ok.injEq] at hscan'
  rw [hscan']

end TypeExport.Expression
