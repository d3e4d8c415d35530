import TypeExport.Proofs.Expression.Failing

/-!
# Columns of errors

An error in a type expression points at a column of the text: at a character that belongs to no
token, at a name that stands for no type, or at the first token with which no sentence goes on.
Where there is no such token, it points behind the text.

* `LexesUpTo` — the head of a text is divided into tokens, whatever becomes of the rest.
* `IsStrayAt`, `Token.exists_stray_of_scanFrom` — the scanner stops at the first character that
  starts no token.
* `IsSplitAt`, `isSplitAt_of_scan` — each token stands at its column, and between the tokens the
  text is divided.
* `IsBlockedAt`, `isBlockedAt_of_stuck` — no sentence goes on at a column.
* `Problem.IsAt`, `error_column` — what each problem says of the column of its error.
-/

namespace TypeExport.Expression

open Begun (expecting)

/-! ### The head of a text -/

/-- The head of a text is divided into tokens of these kinds, with any blanks around them.  The rest
of the text matters to how far a name reaches. -/
inductive LexesUpTo : List Char → List TokenKind → List Char → Prop
  | nil {rest : List Char} : LexesUpTo [] [] rest
  | blank {c : Char} {front rest : List Char} {kinds : List TokenKind} :
      Text.isBlank c → LexesUpTo front kinds rest → LexesUpTo (c :: front) kinds rest
  | symbol {c : Char} {front rest : List Char} {kinds : List TokenKind} :
      c ∈ symbols → LexesUpTo front kinds rest → LexesUpTo (c :: front) (.symbol c :: kinds) rest
  | name {word front rest : List Char} {kinds : List TokenKind} :
      IsLongestName word (front ++ rest) → LexesUpTo front kinds rest →
        LexesUpTo (word ++ front) (.name (.ofList word) :: kinds) rest

/-- With the rest divided as well, the whole text is. -/
theorem LexesUpTo.append {front rest : List Char} {before after : List TokenKind}
    (h : LexesUpTo front before rest) (hrest : Lexes rest after) :
    Lexes (front ++ rest) (before ++ after) := by
  induction h with
  | nil => exact hrest
  | blank hblank _ ih => exact .blank hblank (ih hrest)
  | symbol hsymbol _ ih => exact .symbol hsymbol (ih hrest)
  | name hlongest _ ih =>
    rw [List.append_assoc]
    exact .name hlongest (ih hrest)

/-- At the column stands the first character that is neither blank nor part of a token. -/
def IsStrayAt (text : List Char) (column : Nat) (c : Char) : Prop :=
  ∃ (front rest : List Char) (before : List TokenKind), text = front ++ c :: rest ∧
    column = front.length + 1 ∧ LexesUpTo front before (c :: rest) ∧ IsStray c rest

/-- At the column a token starts, or the text is at its end: the text before it is divided into
tokens, and so is the text from there. -/
def IsSplitAt (text : List Char) (column : Nat) (before after : List TokenKind) : Prop :=
  ∃ front rest : List Char, text = front ++ rest ∧ column = front.length + 1 ∧
    LexesUpTo front before rest ∧ Lexes rest after ∧ ∀ c ∈ rest.head?, Text.isBlank c = false

/-- At the column stands a name that stands for no type with some arguments. -/
def IsUnresolvedAt (scope : Scope) (text : List Char) (column : Nat) (problem : NameProblem) :
    Prop :=
  ∃ before word after, IsSplitAt text column before (.name word :: after) ∧
    ∃ arguments, scope.resolve word arguments = .error problem

/-- Up to the column stands the beginning of a sentence, and no sentence begins with those tokens
and the one at the column.  Where no token is left, the tokens are no sentence. -/
def IsBlockedAt (text : List Char) (column : Nat) : Prop :=
  ∃ before after, IsSplitAt text column before after ∧
    (∃ sentence : Sentence, sentence.HasNames ∧ before <+: sentence.kinds) ∧
    ((∃ kind rest, after = kind :: rest ∧
        ∀ sentence : Sentence, ¬ before ++ [kind] <+: sentence.kinds) ∨
      (after = [] ∧ column = text.length + 1 ∧ ∀ sentence : Sentence, sentence.kinds ≠ before))

/-- What a problem says of its column. -/
def Problem.IsAt (scope : Scope) (text : List Char) (column : Nat) : Problem → Prop
  | unexpectedCharacter c => text[column - 1]? = some c ∧ IsStrayAt text column c
  | name problem => IsUnresolvedAt scope text column problem
  | expectedSymbol _ | expectedName | trailingInput => IsBlockedAt text column

/-- A problem of a form is at the column where reading is blocked. -/
theorem Problem.IsOfForm.isAt {problem : Problem} (h : problem.IsOfForm) {scope : Scope}
    {text : List Char} {column : Nat} (hblocked : IsBlockedAt text column) :
    problem.IsAt scope text column := by
  cases problem with
  | expectedSymbol | expectedName | trailingInput => exact hblocked
  | unexpectedCharacter | name => exact h.elim

/-- A stray character stands at a column of the text. -/
theorem IsStrayAt.le_column {text : List Char} {column : Nat} {c : Char}
    (h : IsStrayAt text column c) :
    1 ≤ column ∧ column ≤ text.length ∧ text[column - 1]? = some c := by
  obtain ⟨front, rest, before, rfl, rfl, -, -⟩ := h
  refine ⟨by omega, ?_, by simp⟩
  rw [List.length_append, List.length_cons]
  omega

/-- The column of a token is in the text, or behind its end. -/
theorem IsSplitAt.le_column {text : List Char} {column : Nat} {before after : List TokenKind}
    (h : IsSplitAt text column before after) : 1 ≤ column ∧ column ≤ text.length + 1 := by
  obtain ⟨front, rest, rfl, rfl, -, -, -⟩ := h
  rw [List.length_append]
  omega

namespace Token

variable {text : List Char} {column : Nat}

/-- Scanning fails at a stray character behind the tokens before it. -/
theorem exists_stray_of_scanFrom {stray : StrayCharacter}
    (h : scanFrom 0 column text = .error stray) :
    ∃ (front rest : List Char) (before : List TokenKind), text = front ++ stray.character :: rest ∧
      stray.column = column + front.length ∧ LexesUpTo front before (stray.character :: rest) ∧
      IsStray stray.character rest := by
  -- Whatever stands before the stray character is divided into tokens on the way to it.
  induction text using text_induction generalizing column with
  | nil => cases h
  | blank c rest hblank ih =>
    rw [scanFrom_blank hblank] at h
    obtain ⟨front, back, before, rfl, hcolumn, hfront, hstray⟩ := ih h
    exact ⟨c :: front, back, before, rfl, by rw [hcolumn, List.length_cons]; omega,
      .blank hblank hfront, hstray⟩
  | symbol c rest hsymbol ih =>
    rw [scanFrom_symbol hsymbol, Except.map_eq_error_iff] at h
    obtain ⟨front, back, before, rfl, hcolumn, hfront, hstray⟩ := ih h
    exact ⟨c :: front, back, .symbol c :: before, rfl, by rw [hcolumn, List.length_cons]; omega,
      .symbol hsymbol hfront, hstray⟩
  | name word rest hlongest ih =>
    rw [scanFrom_name hlongest, Except.map_eq_error_iff] at h
    obtain ⟨front, back, before, rfl, hcolumn, hfront, hstray⟩ := ih h
    exact ⟨word ++ front, back, .name (.ofList word) :: before, (List.append_assoc ..).symm,
      by rw [hcolumn, List.length_append]; omega, .name hlongest hfront, hstray⟩
  | stray c rest hstray =>
    rw [scanFrom_stray hstray] at h
    obtain rfl := Except.error.inj h
    exact ⟨[], rest, [], rfl, rfl, .nil, hstray⟩

/-- Wherever the tokens of a text are divided, the text is divided before the next token. -/
theorem exists_split_of_scanFrom {before after : List Token}
    (h : scanFrom 0 column text = .ok (before ++ after)) :
    ∃ front rest : List Char, text = front ++ rest ∧ LexesUpTo front (before.map (·.kind)) rest ∧
      Lexes rest (after.map (·.kind)) ∧ (∀ c ∈ rest.head?, Text.isBlank c = false) ∧
      ∀ token ∈ after.head?, token.column = column + front.length := by
  induction text using text_induction generalizing column before with
  | nil =>
    obtain ⟨rfl, rfl⟩ := List.append_eq_nil_iff.mp (Except.ok.inj h).symm
    exact ⟨[], [], rfl, .nil, .nil, by simp, by simp⟩
  | blank c rest hblank ih =>
    rw [scanFrom_blank hblank] at h
    obtain ⟨front, back, rfl, hfront, hback, hhead, hcolumn⟩ := ih h
    refine ⟨c :: front, back, rfl, .blank hblank hfront, hback, hhead, fun token htoken => ?_⟩
    rw [hcolumn token htoken, List.length_cons]
    omega
  | symbol c rest hsymbol ih =>
    have hlexes := lexes_of_scanFrom _ _ _ h
    rw [scanFrom_symbol hsymbol] at h
    obtain ⟨others, hothers, htokens⟩ := Except.map_eq_ok_iff.mp h
    -- The symbol is the next token, or it stands before the division.
    obtain ⟨rfl, rfl⟩ | ⟨before, rfl, rfl⟩ := List.cons_eq_append_iff.mp htokens
    · exact ⟨[], c :: rest, rfl, .nil, hlexes, by simp [not_blank_of_symbol hsymbol], by simp⟩
    · obtain ⟨front, back, rfl, hfront, hback, hhead, hcolumn⟩ := ih hothers
      refine ⟨c :: front, back, rfl, .symbol hsymbol hfront, hback, hhead, fun token htoken => ?_⟩
      rw [hcolumn token htoken, List.length_cons]
      omega
  | name word rest hlongest ih =>
    have hlexes := lexes_of_scanFrom _ _ _ h
    rw [scanFrom_name hlongest] at h
    obtain ⟨others, hothers, htokens⟩ := Except.map_eq_ok_iff.mp h
    obtain ⟨rfl, rfl⟩ | ⟨before, rfl, rfl⟩ := List.cons_eq_append_iff.mp htokens
    · exact ⟨[], word ++ rest, rfl, .nil, hlexes, hlongest.head_not_blank, by simp⟩
    · obtain ⟨front, back, rfl, hfront, hback, hhead, hcolumn⟩ := ih hothers
      refine ⟨word ++ front, back, (List.append_assoc ..).symm, .name hlongest hfront, hback,
        hhead, fun token htoken => ?_⟩
      rw [hcolumn token htoken, List.length_append]
      omega
  | stray c rest hstray =>
    rw [scanFrom_stray hstray] at h
    cases h

end Token

/-! ### Columns -/

/-- Nothing but blanks is divided into no tokens. -/
theorem Lexes.eq_nil {text : List Char} (h : Lexes text [])
    (hhead : ∀ c ∈ text.head?, Text.isBlank c = false) : text = [] := by
  cases h with
  | nil => rfl
  | @blank c rest _ hblank _ => exact absurd hblank (by simp [hhead c rfl])

/-- The tokens before a failure and those behind it are divided at its column. -/
theorem isSplitAt_of_scan {text : List Char} {before after : List Token}
    (h : Token.scan text = .ok (before ++ after)) :
    IsSplitAt text ((after.head?.map (·.column)).getD (text.length + 1)) (before.map (·.kind))
      (after.map (·.kind)) := by
  obtain ⟨front, rest, rfl, hfront, hrest, hhead, hcolumn⟩ := Token.exists_split_of_scanFrom h
  refine ⟨front, rest, rfl, ?_, hfront, hrest, hhead⟩
  cases after with
  | nil =>
    -- Blanks at the end of the text belong to its front.
    obtain rfl := hrest.eq_nil hhead
    simp
  | cons token after =>
    rw [List.head?_cons, Option.map_some, Option.getD_some, hcolumn token rfl, Nat.add_comm]

/-- The names before a column are dotted names. -/
theorem IsSplitAt.isDottedName {text : List Char} {column : Nat} {before after : List TokenKind}
    (h : IsSplitAt text column before after) :
    ∀ name, .name name ∈ before → IsDottedName name.toList := by
  obtain ⟨front, rest, -, -, hfront, hrest, -⟩ := h
  exact fun name hname => (hfront.append hrest).isDottedName name (List.mem_append_left _ hname)

/-- Where a beginning is stuck, no sentence goes on. -/
theorem isBlockedAt_of_stuck {text : List Char} {before after : List Token} {last : Begun}
    (hscan : Token.scan text = .ok (before ++ after))
    (hlast : (expecting []).pushAll (before.map (·.kind)) = some last)
    (hstuck : last.Stuck (after.head?.map (·.kind))) :
    IsBlockedAt text ((after.head?.map (·.column)).getD (text.length + 1)) := by
  have hsplit := isSplitAt_of_scan hscan
  refine ⟨before.map (·.kind), after.map (·.kind), hsplit, ?_, ?_⟩
  · have hkinds : last.kinds = before.map (·.kind) := Begun.kinds_pushAll hlast
    -- What was read so far is the beginning of some sentence, with the names that it has.
    obtain ⟨sentence, more, hsentence, hmore⟩ := last.exists_finished
    rw [hkinds] at hsentence
    refine ⟨sentence, sentence.hasNames_of_kinds fun name hname => ?_, ⟨more, hsentence⟩⟩
    rw [← hsentence, List.mem_append] at hname
    exact hname.elim (hsplit.isDottedName name) (hmore name)
  · cases after with
    | nil => exact .inr ⟨rfl, rfl, hstuck.kinds_ne hlast⟩
    | cons token after => exact .inl ⟨token.kind, _, rfl, hstuck.not_prefix hlast⟩

variable {scope : Scope} {text : String} {error : ExpressionError}

/-- **Columns of errors.**  The column of an error lies in the text or right behind it.  An
unexpected character is the first one that is neither blank nor part of a token, a name that stands
for no type starts at the column, and a problem of form is where no sentence goes on. -/
theorem error_column (h : scope.parse text = .error error) :
    error.expression = text ∧ 1 ≤ error.column ∧ error.column ≤ text.toList.length + 1 ∧
      error.problem.IsAt scope text.toList error.column := by
  unfold Scope.parse at h
  split at h
  · next stray hscan =>
    obtain rfl := Except.error.inj h
    obtain ⟨front, rest, before, htext, hcolumn, hfront, hstray⟩ :=
      Token.exists_stray_of_scanFrom hscan
    have hat : IsStrayAt text.toList stray.column stray.character :=
      ⟨front, rest, before, htext, by rw [hcolumn, Nat.add_comm], hfront, hstray⟩
    obtain ⟨hpos, hle, hcharacter⟩ := hat.le_column
    exact ⟨rfl, hpos, Nat.le_succ_of_le hle, hcharacter, hat⟩
  -- With tokens, the descent has failed: at a name, or where no sentence goes on.
  · next tokens hscan =>
    obtain ⟨failure, hfailure, rfl⟩ := Except.mapError_eq_error_iff.mp h
    cases parseTokens_fails hfailure with
    | @name before after word column arguments problem htokens hproblem =>
      have hsplit := isSplitAt_of_scan (htokens ▸ hscan)
      obtain ⟨hpos, hle⟩ := hsplit.le_column
      exact ⟨rfl, hpos, hle, _, word, _, hsplit, arguments, hproblem⟩
    | @stuck before after last problem htokens hlast hstuck hform =>
      have hblocked := isBlockedAt_of_stuck (htokens ▸ hscan) hlast hstuck
      obtain ⟨hpos, hle⟩ := (isSplitAt_of_scan (htokens ▸ hscan)).le_column
      exact ⟨rfl, hpos, hle, hform.isAt hblocked⟩

/-- Four texts that fail: at a character, behind the text, at a token and at a name. -/
theorem error_column_lists :
    IsStrayAt "int$".toList 4 '$' ∧ IsBlockedAt "List<int".toList 9 ∧
      IsBlockedAt "int [string".toList 6 ∧
      IsUnresolvedAt {} "List<Person>".toList 6 (.unknownType "Person") := by
  -- Errors can be compared, types cannot.
  have hfails {text : String} {error : ExpressionError}
      (h : (Scope.parse {} text).map (fun _ => ()) = .error error) :
      Scope.parse {} text = .error error := Except.map_eq_error_iff.mp h
  have hcharacter : Scope.parse {} "int$" = .error ⟨"int$", 4, .unexpectedCharacter '$'⟩ :=
    hfails (by decide +kernel)
  have hend : Scope.parse {} "List<int" = .error ⟨"List<int", 9, .expectedSymbol '>'⟩ :=
    hfails (by decide +kernel)
  have htoken : Scope.parse {} "int [string"
      = .error ⟨"int [string", 6, .expectedSymbol ']'⟩ :=
    hfails (by decide +kernel)
  have hname : Scope.parse {} "List<Person>"
      = .error ⟨"List<Person>", 6, .name (.unknownType "Person")⟩ :=
    hfails (by decide +kernel)
  exact ⟨(error_column hcharacter).2.2.2.2, (error_column hend).2.2.2,
    (error_column htoken).2.2.2, (error_column hname).2.2.2⟩

end TypeExport.Expression
