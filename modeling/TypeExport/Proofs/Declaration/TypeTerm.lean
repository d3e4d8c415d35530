import TypeExport.Text.Blank
import Mathlib.Tactic.Common

/-!
# The notation of TypeScript types

How the text of a TypeScript type is read.  The brackets of an array bind tighter than the bar
between alternatives, and parentheses only group.

* `TypeTerm` — a type: a name with its arguments, an array, or a union of alternatives.
* `lexemes` — the words and marks of a text.
* `Reads category lexemes terms` — the grammar: operands, unions of operands, and argument lists.
* `ReadsAs text term` — the whole text is a union that denotes the term.
* `readAll` — a machine that reads lexemes one by one; `Reads.finds` shows that it finds whatever
  the grammar derives.
* `ReadsAs.unique` — hence no text denotes two terms.
-/

namespace TypeExport

/-- A type: a name with its arguments, an array, or a union of two or more alternatives. -/
inductive TypeTerm where
  | named (name : String) (arguments : List TypeTerm)
  | array (element : TypeTerm)
  | union (alternatives : List TypeTerm)

namespace TypeTerm

/-- The alternatives of a type; a type that is no union is its only alternative. -/
def alternatives : TypeTerm → List TypeTerm
  | union alternatives => alternatives
  | term => [term]

/-- The type with the given alternatives. -/
def ofAlternatives : List TypeTerm → TypeTerm
  | [term] => term
  | alternatives => union alternatives

/-- The type of the absent value. -/
def null : TypeTerm := named "null" []

/-- The type of the absent value, and no other. -/
def isNull : TypeTerm → Bool
  | named name arguments => name == "null" && arguments.isEmpty
  | _ => false

end TypeTerm

/-! ### Words and marks -/

/-- A word, or a character with a meaning of its own. -/
inductive Lexeme where
  | word (text : String)
  | mark (mark : Char)
deriving DecidableEq, Repr

/-- The characters with a meaning of their own. -/
def typeMarks : List Char := ['<', '>', ',', '|', '[', ']', '(', ')']

/-- Words are made of all characters that are neither blank nor marks. -/
def isWordChar (c : Char) : Bool :=
  !Text.isBlank c && !typeMarks.contains c

/-- The lexeme of a word, unless it is empty. -/
def wordLexeme (word : List Char) : List Lexeme :=
  if word.isEmpty then [] else [.word (.ofList word)]

/-- The lexemes of a text behind the beginning of a word. -/
def lexemesFrom (word : List Char) : List Char → List Lexeme
  | [] => wordLexeme word
  | c :: rest =>
    if isWordChar c then lexemesFrom (word ++ [c]) rest
    else wordLexeme word ++ (if Text.isBlank c then [] else [.mark c]) ++ lexemesFrom [] rest

/-- The lexemes of a text. -/
def lexemes (text : String) : List Lexeme :=
  lexemesFrom [] text.toList

/-- The text goes on with a character of a word. -/
def startsWord : List Char → Bool
  | [] => false
  | c :: _ => isWordChar c

/-- A text can be cut in front of a blank or a mark. -/
theorem lexemesFrom_append (word text rest : List Char) (hrest : startsWord rest = false) :
    lexemesFrom word (text ++ rest) = lexemesFrom word text ++ lexemesFrom [] rest := by
  induction text generalizing word with
  | nil =>
    cases rest with
    | nil => simp [lexemesFrom, wordLexeme]
    | cons c rest =>
      rw [startsWord] at hrest
      simp [lexemesFrom, hrest, wordLexeme]
  | cons c text ih =>
    rw [List.cons_append, lexemesFrom, lexemesFrom]
    -- A word that goes on keeps what was read of it; anything else ends it in both texts.
    by_cases hc : isWordChar c
    · rw [if_pos hc, if_pos hc, ih]
    · rw [if_neg hc, if_neg hc, ih]
      simp only [List.append_assoc]

/-- Characters of a word are read into it. -/
theorem lexemesFrom_word (word text : List Char) (htext : ∀ c ∈ text, isWordChar c) :
    lexemesFrom word text = wordLexeme (word ++ text) := by
  induction text generalizing word with
  | nil => simp [lexemesFrom]
  | cons c text ih =>
    rw [lexemesFrom, if_pos (htext c (by simp)), ih _ fun d hd => htext d (by simp [hd]),
      List.append_assoc, List.singleton_append]

/-- A blank or a mark stands for itself. -/
theorem lexemesFrom_cons {c : Char} (h : isWordChar c = false) (rest : List Char) :
    lexemesFrom [] (c :: rest)
      = (if Text.isBlank c then [] else [.mark c]) ++ lexemesFrom [] rest := by
  simp [lexemesFrom, h, wordLexeme]

/-- The lexemes of a text come before those of a rest that begins with no word. -/
theorem lexemes_append (text rest : String) (hrest : startsWord rest.toList = false) :
    lexemes (text ++ rest) = lexemes text ++ lexemes rest := by
  rw [lexemes, String.toList_append]
  exact lexemesFrom_append [] text.toList rest.toList hrest

/-- A text behind a mark. -/
theorem lexemes_mark_append (c : Char) (text : String) (h : c ∈ typeMarks) :
    lexemes (String.singleton c ++ text) = .mark c :: lexemes text := by
  have hmarks : typeMarks.all fun c => !isWordChar c && !Text.isBlank c := by decide
  have hmark := List.all_eq_true.mp hmarks c h
  obtain ⟨hword, hblank⟩ : isWordChar c = false ∧ Text.isBlank c = false := by simpa using hmark
  rw [lexemes, String.toList_append, String.toList_singleton, List.singleton_append,
    lexemesFrom_cons hword, hblank]
  rfl

/-! ### The grammar -/

/-- The categories of the grammar. -/
inductive Category where
  /-- A name with its arguments, or a type in parentheses. -/
  | primary
  /-- A primary type with any number of array brackets behind it. -/
  | operand
  /-- Operands with bars between them. -/
  | union
  /-- Unions with commas between them. -/
  | arguments

/-- What lexemes denote: one type for primary types and operands, the alternatives of a union, or
the types of an argument list. -/
inductive Reads : Category → List Lexeme → List TypeTerm → Prop
  | word (text : String) : Reads .primary [.word text] [.named text []]
  | apply (text : String) {inside : List Lexeme} {arguments : List TypeTerm} :
      Reads .arguments inside arguments →
        Reads .primary (.word text :: .mark '<' :: (inside ++ [.mark '>'])) [.named text arguments]
  | parentheses {inside : List Lexeme} {alternatives : List TypeTerm} :
      Reads .union inside alternatives →
        Reads .primary (.mark '(' :: (inside ++ [.mark ')'])) [.ofAlternatives alternatives]
  | primary {lexemes : List Lexeme} {term : TypeTerm} :
      Reads .primary lexemes [term] → Reads .operand lexemes [term]
  | array {lexemes : List Lexeme} {element : TypeTerm} :
      Reads .operand lexemes [element] →
        Reads .operand (lexemes ++ [.mark '[', .mark ']']) [.array element]
  | operand {lexemes : List Lexeme} {term : TypeTerm} :
      Reads .operand lexemes [term] → Reads .union lexemes term.alternatives
  | bar {left right : List Lexeme} {alternatives : List TypeTerm} {term : TypeTerm} :
      Reads .union left alternatives → Reads .operand right [term] →
        Reads .union (left ++ .mark '|' :: right) (alternatives ++ term.alternatives)
  | argument {lexemes : List Lexeme} {alternatives : List TypeTerm} :
      Reads .union lexemes alternatives → Reads .arguments lexemes [.ofAlternatives alternatives]
  | comma {left right : List Lexeme} {arguments alternatives : List TypeTerm} :
      Reads .arguments left arguments → Reads .union right alternatives →
        Reads .arguments (left ++ .mark ',' :: right) (arguments ++ [.ofAlternatives alternatives])

/-- The text is a union whose alternatives are those of the term. -/
def ReadsAs (text : String) (term : TypeTerm) : Prop :=
  ∃ alternatives, Reads .union (lexemes text) alternatives ∧ .ofAlternatives alternatives = term

/-! ### A machine that reads lexemes one by one -/

/-- What has been opened, with the alternatives that stand before it. -/
inductive Frame where
  /-- Behind an opening bracket: the type before it. -/
  | brackets (element : TypeTerm) (before : List TypeTerm)
  /-- Behind an opening parenthesis. -/
  | group (before : List TypeTerm)
  /-- Behind an opening angle bracket or a comma: the name and the arguments so far. -/
  | arguments (name : String) (arguments : List TypeTerm) (before : List TypeTerm)

/-- The operand that has just been read, if any, the alternatives before it, and what is open. -/
structure ReaderState where
  operand? : Option TypeTerm := none
  before : List TypeTerm := []
  frames : List Frame := []

/-- The type that ends with the operand. -/
def closeUnion (before : List TypeTerm) (operand : TypeTerm) : TypeTerm :=
  .ofAlternatives (before ++ operand.alternatives)

/-- Read one lexeme. -/
def readStep : Lexeme → ReaderState → Option ReaderState
  | .word text, ⟨none, before, frames⟩ => some ⟨some (.named text []), before, frames⟩
  | .mark '[', ⟨some element, before, frames⟩ => some ⟨none, [], .brackets element before :: frames⟩
  | .mark ']', ⟨none, [], .brackets element before :: frames⟩ =>
    some ⟨some (.array element), before, frames⟩
  | .mark '|', ⟨some operand, before, frames⟩ => some ⟨none, before ++ operand.alternatives, frames⟩
  | .mark '(', ⟨none, before, frames⟩ => some ⟨none, [], .group before :: frames⟩
  | .mark ')', ⟨some operand, before, .group outer :: frames⟩ =>
    some ⟨some (closeUnion before operand), outer, frames⟩
  | .mark '<', ⟨some (.named name []), before, frames⟩ =>
    some ⟨none, [], .arguments name [] before :: frames⟩
  | .mark ',', ⟨some operand, before, .arguments name arguments outer :: frames⟩ =>
    some ⟨none, [], .arguments name (arguments ++ [closeUnion before operand]) outer :: frames⟩
  | .mark '>', ⟨some operand, before, .arguments name arguments outer :: frames⟩ =>
    some ⟨some (.named name (arguments ++ [closeUnion before operand])), outer, frames⟩
  | _, _ => none

/-- Read several lexemes. -/
def readAll : List Lexeme → ReaderState → Option ReaderState
  | [], state => some state
  | lexeme :: rest, state => (readStep lexeme state).bind (readAll rest)

/-- Lexemes are read first, and from where that stopped the rest. -/
theorem readAll_append (lexemes rest : List Lexeme) (state : ReaderState) :
    readAll (lexemes ++ rest) state = (readAll lexemes state).bind (readAll rest) := by
  induction lexemes generalizing state with
  | nil => rfl
  | cons lexeme lexemes ih =>
    rw [List.cons_append, readAll, readAll, Option.bind_assoc]
    congr 1
    funext next
    exact ih next

/-- What the machine makes of lexemes that the grammar derives.  It keeps the last operand of a
union and the last argument of a list open, because more may follow. -/
def Finds : Category → List Lexeme → List TypeTerm → Prop
  | .primary, lexemes, terms | .operand, lexemes, terms =>
    ∃ term, terms = [term] ∧ ∀ before frames,
      readAll lexemes ⟨none, before, frames⟩ = some ⟨some term, before, frames⟩
  | .union, lexemes, alternatives =>
    ∃ front last, alternatives = front ++ last.alternatives ∧ ∀ before frames,
      readAll lexemes ⟨none, before, frames⟩ = some ⟨some last, before ++ front, frames⟩
  | .arguments, lexemes, arguments =>
    ∃ init front last, arguments = init ++ [closeUnion front last] ∧ ∀ name given outer frames,
      readAll lexemes ⟨none, [], .arguments name given outer :: frames⟩
        = some ⟨some last, front, .arguments name (given ++ init) outer :: frames⟩

/-- **The machine follows the grammar.** -/
theorem Reads.finds {category : Category} {lexemes : List Lexeme} {terms : List TypeTerm}
    (h : Reads category lexemes terms) : Finds category lexemes terms := by
  induction h with
  | word text => exact ⟨_, rfl, fun before frames => rfl⟩
  | @apply text inside arguments _ ih =>
    obtain ⟨init, front, last, rfl, hinside⟩ := ih
    refine ⟨_, rfl, ?_⟩
    intro before frames
    have hall := hinside text [] before frames
    rw [readAll, readStep, Option.bind_some, readAll, readStep, Option.bind_some, readAll_append,
      hall]
    rfl
  | @parentheses inside alternatives _ ih =>
    obtain ⟨front, last, rfl, hinside⟩ := ih
    refine ⟨_, rfl, ?_⟩
    intro before frames
    have hall := hinside [] (.group before :: frames)
    rw [readAll, readStep, Option.bind_some, readAll_append, hall]
    rfl
  | primary _ ih => exact ih
  | @array lexemes element _ ih =>
    obtain ⟨term, hterm, hall⟩ := ih
    obtain rfl : element = term := by simpa using hterm
    refine ⟨_, rfl, ?_⟩
    intro before frames
    rw [readAll_append, hall]
    rfl
  | @operand lexemes term _ ih =>
    obtain ⟨term', hterm, hall⟩ := ih
    obtain rfl : term = term' := by simpa using hterm
    exact ⟨[], term, rfl, by simpa using hall⟩
  | @bar left right alternatives term _ _ ihleft ihright =>
    obtain ⟨front, last, rfl, hleft⟩ := ihleft
    obtain ⟨term', hterm, hright⟩ := ihright
    obtain rfl : term = term' := by simpa using hterm
    refine ⟨front ++ last.alternatives, term, rfl, ?_⟩
    intro before frames
    rw [readAll_append, hleft, Option.bind_some, readAll, readStep, Option.bind_some, hright,
      List.append_assoc]
  | @argument lexemes alternatives _ ih =>
    obtain ⟨front, last, rfl, hall⟩ := ih
    refine ⟨[], front, last, rfl, ?_⟩
    intro name given outer frames
    rw [hall, List.nil_append, List.append_nil]
  | @comma left right arguments alternatives _ _ ihleft ihright =>
    obtain ⟨init, front, last, rfl, hleft⟩ := ihleft
    obtain ⟨front', last', rfl, hright⟩ := ihright
    -- The comma closes the argument before it, and the argument behind it stays open.
    refine ⟨init ++ [closeUnion front last], front', last', rfl, ?_⟩
    intro name given outer frames
    rw [readAll_append, hleft, Option.bind_some, readAll, readStep, Option.bind_some, hright,
      List.nil_append, List.append_assoc]

/-- **Unambiguity.** No text denotes two types. -/
theorem ReadsAs.unique {text : String} {term term' : TypeTerm} (h : ReadsAs text term)
    (h' : ReadsAs text term') : term = term' := by
  obtain ⟨alternatives, hreads, rfl⟩ := h
  obtain ⟨alternatives', hreads', rfl⟩ := h'
  obtain ⟨front, last, rfl, hall⟩ := hreads.finds
  obtain ⟨front', last', rfl, hall'⟩ := hreads'.finds
  -- One run of the machine finds both, and what it finds says what the alternatives are.
  have hsame := (hall [] []).symm.trans (hall' [] [])
  simp only [Option.some.injEq, ReaderState.mk.injEq, List.nil_append, and_true] at hsame
  obtain ⟨rfl, rfl⟩ := hsame
  rfl

end TypeExport
