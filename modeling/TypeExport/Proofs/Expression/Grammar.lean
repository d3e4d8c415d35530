import TypeExport.Expression.Parse
import TypeExport.Proofs.Expression.Lexing

/-!
# The grammar of type expressions

The grammar is `type := name ['<' type {',' type} '>'] {'?' | '[' ']'}`.  A `Sentence` is a
derivation of it; its tokens and the type it denotes are read off the derivation.

* `Sentence`, `Sentence.kinds` — derivations, and the tokens that a derivation derives.
* `Sentence.evaluate` — the type a sentence denotes, from the arguments up: the name is resolved
  with its arguments and the marks are applied from left to right.
* `Sentence.kinds_injective` — no token sequence has two derivations.
* `SentenceBefore`, `ArgumentsBefore` — what the descent has read (`descent_sound`).
* `Sentence.parseType_complete` — the descent reads every sentence whose names resolve.
* `parseTokens_eq_ok_iff` — the descent accepts exactly the sentences whose names resolve.
* `parseType_eq_of_length_le` — the descent ends by itself: it never goes deeper than there are
  tokens.
* `parse_accepts_grammar` — all of this for texts.
-/

namespace TypeExport.Expression

/-! ### Derivations -/

/-- A mark behind a type. -/
inductive Mark where
  /-- A question mark: the type is nullable. -/
  | question
  /-- A pair of brackets: an array of the type. -/
  | brackets
deriving DecidableEq, Repr

namespace Mark

/-- The tokens of a mark. -/
def kinds : Mark → List TokenKind
  | question => [.symbol '?']
  | brackets => [.symbol '[', .symbol ']']

/-- What a mark makes of the type before it. -/
def apply (type : TypeRef) : Mark → TypeRef
  | question => .nullable type
  | brackets => .array type

end Mark

/-- A derivation: a name, its arguments, which stand between angle brackets if there are any, and
the marks behind them. -/
inductive Sentence where
  | type (name : String) (arguments : List Sentence) (marks : List Mark)

namespace Sentence

mutual

/-- The tokens of a sentence. -/
def kinds : Sentence → List TokenKind
  | type name arguments marks =>
    .name name :: (argumentKinds arguments ++ marks.flatMap Mark.kinds)

/-- The tokens of the arguments with their brackets. -/
def argumentKinds : List Sentence → List TokenKind
  | [] => []
  | first :: others => .symbol '<' :: (kinds first ++ otherKinds others)

/-- The tokens behind an argument: further arguments and the closing bracket. -/
def otherKinds : List Sentence → List TokenKind
  | [] => [.symbol '>']
  | next :: others => .symbol ',' :: (kinds next ++ otherKinds others)

end

mutual

/-- The type that a sentence denotes, unless one of its names stands for none. -/
def evaluate (scope : Scope) : Sentence → Except NameProblem TypeRef
  | type name arguments marks => do
    let types ← evaluateAll scope arguments
    let head ← scope.resolve name types
    return marks.foldl Mark.apply head

/-- The types that several sentences denote. -/
def evaluateAll (scope : Scope) : List Sentence → Except NameProblem (List TypeRef)
  | [] => return []
  | first :: others => do
    let type ← evaluate scope first
    let types ← evaluateAll scope others
    return type :: types

end

/-- A sentence evaluates to its head, resolved with the values of its arguments, under its marks. -/
theorem evaluate_eq_ok_iff (scope : Scope) (name : String) (arguments : List Sentence)
    (marks : List Mark) (result : TypeRef) :
    (type name arguments marks).evaluate scope = .ok result ↔
      ∃ types, evaluateAll scope arguments = .ok types ∧
        ∃ head, scope.resolve name types = .ok head ∧ marks.foldl Mark.apply head = result := by
  simp only [evaluate, Except.bind_eq_ok_iff, pure, Except.pure, Except.ok.injEq]

/-- Sentences are evaluated from the first one on. -/
theorem evaluateAll_cons_eq_ok_iff (scope : Scope) (first : Sentence) (others : List Sentence)
    (result : List TypeRef) :
    evaluateAll scope (first :: others) = .ok result ↔
      ∃ type, first.evaluate scope = .ok type ∧
        ∃ types, evaluateAll scope others = .ok types ∧ type :: types = result := by
  simp only [evaluateAll, Except.bind_eq_ok_iff, pure, Except.pure, Except.ok.injEq]

end Sentence

/-- What may stand behind a whole type: nothing, a comma or a closing bracket. -/
def Ends (kinds : List TokenKind) : Prop :=
  ∀ kind ∈ kinds.head?, kind = .symbol ',' ∨ kind = .symbol '>'

/-- At the end of the tokens, marks end. -/
theorem ends_nil : Ends [] := by simp [Ends]

/-- Before a comma or a closing bracket, marks end. -/
theorem ends_otherKinds (others : List Sentence) (rest : List TokenKind) :
    Ends (Sentence.otherKinds others ++ rest) := by
  cases others <;> simp [Ends, Sentence.otherKinds]

/-! ### No token sequence has two derivations -/

/-- Marks are told apart by their tokens. -/
theorem flatMap_kinds_injective {marks marks' : List Mark} {rest rest' : List TokenKind}
    (hends : Ends rest) (hends' : Ends rest')
    (h : marks.flatMap Mark.kinds ++ rest = marks'.flatMap Mark.kinds ++ rest') :
    marks = marks' ∧ rest = rest' := by
  induction marks generalizing marks' with
  | nil =>
    cases marks' with
    | nil => exact ⟨rfl, h⟩
    | cons mark' marks' =>
      -- The rest would start with a mark, which ends nothing.
      simp only [List.flatMap_nil, List.nil_append] at h
      cases mark' <;> simp [h, Ends, Mark.kinds] at hends
  | cons mark marks ih =>
    cases marks' with
    | nil =>
      simp only [List.flatMap_nil, List.nil_append] at h
      cases mark <;> simp [← h, Ends, Mark.kinds] at hends'
    | cons mark' marks' =>
      cases mark <;> cases mark' <;> simp [Mark.kinds] at h ⊢ <;> exact ih h

/-- Neither a mark nor an end looks like the bracket before arguments. -/
theorem marks_ne_opening {marks : List Mark} {rest tail : List TokenKind} (hends : Ends rest) :
    marks.flatMap Mark.kinds ++ rest ≠ .symbol '<' :: tail := by
  cases marks with
  | nil => rintro rfl; simp [Ends] at hends
  | cons mark marks => cases mark <;> simp [Mark.kinds]

namespace Sentence

mutual

/-- A sentence can be told from its tokens, whatever ends it. -/
theorem kinds_append_injective (sentence sentence' : Sentence) {rest rest' : List TokenKind}
    (hends : Ends rest) (hends' : Ends rest')
    (h : sentence.kinds ++ rest = sentence'.kinds ++ rest') :
    sentence = sentence' ∧ rest = rest' := by
  obtain ⟨name, arguments, marks⟩ := sentence
  obtain ⟨name', arguments', marks'⟩ := sentence'
  simp only [kinds, List.cons_append, List.append_assoc, List.cons.injEq,
    TokenKind.name.injEq] at h
  obtain ⟨rfl, h⟩ := h
  obtain ⟨rfl, hmarks⟩ := argumentKinds_append_injective arguments arguments' hends hends' h
  obtain ⟨rfl, rfl⟩ := flatMap_kinds_injective hends hends' hmarks
  exact ⟨rfl, rfl⟩

/-- Marks do not start like arguments, so both derivations have arguments or neither has. -/
theorem argumentKinds_append_injective (arguments arguments' : List Sentence)
    {marks marks' : List Mark} {rest rest' : List TokenKind} (hends : Ends rest)
    (hends' : Ends rest')
    (h : argumentKinds arguments ++ (marks.flatMap Mark.kinds ++ rest)
      = argumentKinds arguments' ++ (marks'.flatMap Mark.kinds ++ rest')) :
    arguments = arguments' ∧
      marks.flatMap Mark.kinds ++ rest = marks'.flatMap Mark.kinds ++ rest' := by
  cases arguments with
  | nil =>
    cases arguments' with
    | nil => exact ⟨rfl, h⟩
    | cons first' others' =>
      -- Only the second derivation would have the opening bracket.
      exact absurd h (marks_ne_opening hends)
  | cons first others =>
    cases arguments' with
    | nil => exact absurd h.symm (marks_ne_opening hends')
    | cons first' others' =>
      simp only [argumentKinds, List.cons_append, List.append_assoc, List.cons.injEq,
        true_and] at h
      -- The further arguments end the first one, so it is the same in both.
      obtain ⟨rfl, hothers⟩ := kinds_append_injective first first' (ends_otherKinds others _)
        (ends_otherKinds others' _) h
      obtain ⟨rfl, hrest⟩ := otherKinds_append_injective others others' hothers
      exact ⟨rfl, hrest⟩

/-- The closing bracket ends the arguments, whatever stands behind it. -/
theorem otherKinds_append_injective (others others' : List Sentence) {rest rest' : List TokenKind}
    (h : otherKinds others ++ rest = otherKinds others' ++ rest') :
    others = others' ∧ rest = rest' := by
  -- A comma in one list and the closing bracket in the other are different tokens.
  cases others with
  | nil =>
    cases others' with
    | nil => simpa [otherKinds] using h
    | cons next' others' => simp [otherKinds] at h
  | cons next others =>
    cases others' with
    | nil => simp [otherKinds] at h
    | cons next' others' =>
      simp only [otherKinds, List.cons_append, List.append_assoc, List.cons.injEq, true_and] at h
      obtain ⟨rfl, hothers⟩ := kinds_append_injective next next' (ends_otherKinds others _)
        (ends_otherKinds others' _) h
      obtain ⟨rfl, hrest⟩ := otherKinds_append_injective others others' hothers
      exact ⟨rfl, hrest⟩

end

/-- **Unambiguity.** No token sequence has two derivations. -/
theorem kinds_injective {sentence sentence' : Sentence} (h : sentence.kinds = sentence'.kinds) :
    sentence = sentence' :=
  (kinds_append_injective sentence sentence' ends_nil ends_nil (by rw [h])).1

end Sentence

/-! ### One step of the descent -/

/-- What may stand between a name and its marks: arguments behind an opening bracket, or nothing. -/
def parseHeadArguments (scope : Scope) (fuel : Nat) :
    List Token → Except Failure (List TypeRef × List Token)
  | ⟨.symbol '<', _⟩ :: rest => parseArguments scope fuel rest
  | rest => .ok ([], rest)

/-- A type is read as its name, its arguments and its marks. -/
theorem parseType_name (scope : Scope) (fuel : Nat) (name : String) (column : Nat)
    (rest : List Token) :
    parseType scope (fuel + 1) (⟨.name name, column⟩ :: rest) = (do
      let (arguments, rest) ← parseHeadArguments scope fuel rest
      let type ← (scope.resolve name arguments).mapError fun problem => ⟨.name problem, some column⟩
      parseMarks type rest) := by
  unfold parseType
  split
  · rfl
  · next hne =>
    have hnone : parseHeadArguments scope fuel rest = .ok ([], rest) := by
      unfold parseHeadArguments
      split
      · next column behind => exact absurd rfl (hne column behind)
      · rfl
    rw [hnone]

/-- A type is read as a name, its arguments and its marks. -/
theorem parseType_eq_ok_iff (scope : Scope) (fuel : Nat) (tokens : List Token) (type : TypeRef)
    (rest : List Token) :
    parseType scope fuel tokens = .ok (type, rest) ↔
      ∃ depth name column behind arguments marked head,
        fuel = depth + 1 ∧ tokens = ⟨.name name, column⟩ :: behind ∧
        parseHeadArguments scope depth behind = .ok (arguments, marked) ∧
        scope.resolve name arguments = .ok head ∧ parseMarks head marked = .ok (type, rest) := by
  constructor
  · intro h
    -- Without a name in front, or without fuel, nothing is read.
    have hname : ∃ depth name column behind,
        fuel = depth + 1 ∧ tokens = ⟨.name name, column⟩ :: behind := by
      unfold parseType at h
      split at h
      · exact ⟨_, _, _, _, rfl, rfl⟩
      · cases h
    obtain ⟨depth, name, column, behind, rfl, rfl⟩ := hname
    rw [parseType_name, Except.bind_eq_ok_iff] at h
    obtain ⟨⟨arguments, marked⟩, harguments, h⟩ := h
    obtain ⟨head, hhead, hmarks⟩ := Except.bind_eq_ok_iff.mp h
    exact ⟨depth, name, column, behind, arguments, marked, head, rfl, rfl, harguments,
      Except.mapError_eq_ok_iff.mp hhead, hmarks⟩
  · rintro ⟨depth, name, column, behind, arguments, marked, head, rfl, rfl, harguments, hhead,
      hmarks⟩
    rw [parseType_name, harguments, Except.bind_ok_eq]
    dsimp only
    rw [hhead]
    exact hmarks

/-- Arguments are read behind an opening bracket, and there are none without one. -/
theorem parseHeadArguments_eq_ok_iff (scope : Scope) (fuel : Nat) (tokens : List Token)
    (types : List TypeRef) (rest : List Token) :
    parseHeadArguments scope fuel tokens = .ok (types, rest) ↔
      (∃ column behind, tokens = ⟨.symbol '<', column⟩ :: behind ∧
        parseArguments scope fuel behind = .ok (types, rest)) ∨
      ((∀ column behind, tokens ≠ ⟨.symbol '<', column⟩ :: behind) ∧
        types = [] ∧ tokens = rest) := by
  unfold parseHeadArguments
  -- The first token decides: an opening bracket, or anything else.
  split
  · next column behind =>
    constructor
    · intro h
      exact .inl ⟨column, behind, rfl, h⟩
    · rintro (⟨column', behind', htokens, h⟩ | ⟨hne, -⟩)
      · rw [List.cons.injEq] at htokens
        rw [htokens.2]
        exact h
      · exact absurd rfl (hne column behind)
  · next hne =>
    constructor
    · intro h
      obtain ⟨rfl, rfl⟩ : [] = types ∧ tokens = rest := by simpa using h
      exact .inr ⟨hne, rfl, rfl⟩
    · rintro (⟨column', behind', htokens, -⟩ | ⟨-, rfl, rfl⟩)
      · exact absurd htokens (hne column' behind')
      · rfl

/-- Arguments are read one by one, each with a comma or the closing bracket behind it. -/
theorem parseArguments_eq_ok_iff (scope : Scope) (fuel : Nat) (tokens : List Token)
    (types : List TypeRef) (rest : List Token) :
    parseArguments scope fuel tokens = .ok (types, rest) ↔
      ∃ depth first behind, fuel = depth + 1 ∧ parseType scope depth tokens = .ok (first, behind) ∧
        ((∃ column more others, behind = ⟨.symbol ',', column⟩ :: more ∧
            parseArguments scope depth more = .ok (others, rest) ∧ types = first :: others) ∨
          (∃ column, behind = ⟨.symbol '>', column⟩ :: rest ∧ types = [first])) := by
  cases fuel with
  | zero => simp [parseArguments, failAt]
  | succ fuel =>
    rw [parseArguments, Except.bind_eq_ok_iff]
    constructor
    · rintro ⟨⟨first, behind⟩, hfirst, h⟩
      refine ⟨fuel, first, behind, rfl, hfirst, ?_⟩
      dsimp only at h
      -- A comma or the closing bracket stands behind an argument.
      split at h
      · obtain ⟨⟨others, last⟩, hothers, hresult⟩ := Except.bind_eq_ok_iff.mp h
        obtain ⟨rfl, rfl⟩ : first :: others = types ∧ last = rest := by
          simpa [pure, Except.pure] using hresult
        exact .inl ⟨_, _, others, rfl, hothers, rfl⟩
      · next column more =>
        obtain ⟨rfl, rfl⟩ : [first] = types ∧ more = rest := by simpa [pure, Except.pure] using h
        exact .inr ⟨column, rfl, rfl⟩
      · cases h
    · rintro ⟨depth, first, behind, hdepth, hfirst, h⟩
      obtain rfl : fuel = depth := by omega
      refine ⟨(first, behind), hfirst, ?_⟩
      rcases h with ⟨column, more, others, rfl, hothers, rfl⟩ | ⟨column, rfl, rfl⟩
      · simp [hothers, pure, Except.pure]
      · rfl

/-! ### The descent accepts sentences only -/

/-- What is read as marks are marks. -/
theorem parseMarks_sound (type : TypeRef) (tokens : List Token) (result : TypeRef)
    (rest : List Token) (h : parseMarks type tokens = .ok (result, rest)) :
    ∃ (marks : List Mark) (read : List Token), tokens = read ++ rest ∧
      read.map (·.kind) = marks.flatMap Mark.kinds ∧ result = marks.foldl Mark.apply type := by
  fun_induction parseMarks type tokens with
  | case1 type column tokens ih =>
    obtain ⟨marks, read, rfl, hread, rfl⟩ := ih h
    -- The mark at hand stands before those that the rest of the tokens are read as.
    exact ⟨.question :: marks, ⟨.symbol '?', column⟩ :: read, rfl,
      by simp [hread, Mark.kinds], rfl⟩
  | case2 type column column' tokens ih =>
    obtain ⟨marks, read, rfl, hread, rfl⟩ := ih h
    exact ⟨.brackets :: marks, ⟨.symbol '[', column⟩ :: ⟨.symbol ']', column'⟩ :: read, rfl,
      by simp [hread, Mark.kinds], rfl⟩
  | case3 => cases h
  -- No mark is left: what was read ends here.
  | case4 type tokens =>
    obtain ⟨rfl, rfl⟩ : type = result ∧ tokens = rest := by simpa using h
    exact ⟨[], [], rfl, rfl, rfl⟩

/-- The tokens before the rest are a sentence that denotes the type. -/
def SentenceBefore (scope : Scope) (tokens : List Token) (type : TypeRef) (rest : List Token) :
    Prop :=
  ∃ sentence read, tokens = read ++ rest ∧ read.map (·.kind) = Sentence.kinds sentence ∧
    sentence.evaluate scope = .ok type

/-- The tokens before the rest are arguments and their closing bracket, and the arguments denote
the types. -/
def ArgumentsBefore (scope : Scope) (tokens : List Token) (types : List TypeRef)
    (rest : List Token) : Prop :=
  ∃ first others read, tokens = read ++ rest ∧
    read.map (·.kind) = Sentence.kinds first ++ Sentence.otherKinds others ∧
    Sentence.evaluateAll scope (first :: others) = .ok types

/-- A type is a sentence if arguments one level below are arguments. -/
theorem parseType_sound {scope : Scope} {fuel : Nat}
    (ih : ∀ tokens types rest, parseArguments scope fuel tokens = .ok (types, rest) →
      ArgumentsBefore scope tokens types rest)
    {tokens rest : List Token} {type : TypeRef}
    (h : parseType scope (fuel + 1) tokens = .ok (type, rest)) :
    SentenceBefore scope tokens type rest := by
  obtain ⟨depth, name, column, behind, types, marked, head, hdepth, rfl, hbehind, hhead, hmarks⟩ :=
    (parseType_eq_ok_iff ..).mp h
  obtain rfl : fuel = depth := by omega
  obtain ⟨marks, readMarks, rfl, hreadMarks, rfl⟩ := parseMarks_sound _ _ _ _ hmarks
  -- With arguments, the tokens are the name, the bracket, what was read inside, and the marks.
  rcases (parseHeadArguments_eq_ok_iff ..).mp hbehind with
    ⟨bracket, inside, rfl, hinside⟩ | ⟨-, rfl, rfl⟩
  · obtain ⟨first, others, read, rfl, hread, htypes⟩ := ih _ _ _ hinside
    refine ⟨.type name (first :: others) marks,
      ⟨.name name, column⟩ :: ⟨.symbol '<', bracket⟩ :: (read ++ readMarks), by simp, ?_, ?_⟩
    · simp [Sentence.kinds, Sentence.argumentKinds, hread, hreadMarks]
    · exact (Sentence.evaluate_eq_ok_iff ..).mpr ⟨types, htypes, head, hhead, rfl⟩
  · refine ⟨.type name [] marks, ⟨.name name, column⟩ :: readMarks, by simp, ?_, ?_⟩
    · simp [Sentence.kinds, Sentence.argumentKinds, hreadMarks]
    · exact (Sentence.evaluate_eq_ok_iff ..).mpr ⟨[], rfl, head, hhead, rfl⟩

/-- Arguments are arguments if types and arguments one level below are what they should be. -/
theorem parseArguments_sound {scope : Scope} {fuel : Nat}
    (ihtype : ∀ tokens type rest, parseType scope fuel tokens = .ok (type, rest) →
      SentenceBefore scope tokens type rest)
    (ih : ∀ tokens types rest, parseArguments scope fuel tokens = .ok (types, rest) →
      ArgumentsBefore scope tokens types rest)
    {tokens rest : List Token} {types : List TypeRef}
    (h : parseArguments scope (fuel + 1) tokens = .ok (types, rest)) :
    ArgumentsBefore scope tokens types rest := by
  obtain ⟨depth, first, behind, hdepth, hfirst, hstep⟩ := (parseArguments_eq_ok_iff ..).mp h
  obtain rfl : fuel = depth := by omega
  obtain ⟨sentence, readFirst, rfl, hreadFirst, hvalue⟩ := ihtype _ _ _ hfirst
  -- Behind a comma, at least one more argument is read; a closing bracket ends the list.
  rcases hstep with ⟨column, more, others, rfl, hmore, rfl⟩ | ⟨column, rfl, rfl⟩
  · obtain ⟨second, sentences, read, rfl, hread, htypes⟩ := ih _ _ _ hmore
    refine ⟨sentence, second :: sentences, readFirst ++ ⟨.symbol ',', column⟩ :: read,
      by simp, ?_, ?_⟩
    · simp [Sentence.otherKinds, hreadFirst, hread]
    · exact (Sentence.evaluateAll_cons_eq_ok_iff ..).mpr ⟨first, hvalue, others, htypes, rfl⟩
  · refine ⟨sentence, [], readFirst ++ [⟨.symbol '>', column⟩], by simp, ?_, ?_⟩
    · simp [Sentence.otherKinds, hreadFirst]
    · exact (Sentence.evaluateAll_cons_eq_ok_iff ..).mpr ⟨first, hvalue, [], rfl, rfl⟩

/-- Whatever the descent reads is a sentence that denotes the type it returns, and whatever it
reads behind an opening bracket are arguments with their closing bracket. -/
theorem descent_sound (scope : Scope) (fuel : Nat) :
    (∀ tokens type rest, parseType scope fuel tokens = .ok (type, rest) →
      SentenceBefore scope tokens type rest) ∧
    (∀ tokens types rest, parseArguments scope fuel tokens = .ok (types, rest) →
      ArgumentsBefore scope tokens types rest) := by
  -- One level of the descent calls the next one with less fuel, so both statements are proved
  -- together.
  induction fuel with
  | zero =>
    constructor
    · intro tokens type rest h
      simp [parseType, failAt] at h
    · intro tokens types rest h
      simp [parseArguments, failAt] at h
  | succ fuel ih =>
    constructor
    · intro tokens type rest h
      exact parseType_sound ih.2 h
    · intro tokens types rest h
      exact parseArguments_sound ih.1 ih.2 h

/-! ### The descent accepts every sentence -/

/-- Only the kinds of the tokens matter to a sentence; their columns may be any. -/
theorem map_kind_eq_cons_iff (tokens : List Token) (kind : TokenKind) (kinds : List TokenKind) :
    tokens.map (·.kind) = kind :: kinds ↔
      ∃ column rest, tokens = ⟨kind, column⟩ :: rest ∧ rest.map (·.kind) = kinds := by
  rw [List.map_eq_cons_iff]
  constructor
  · rintro ⟨⟨_, column⟩, rest, rfl, rfl, hrest⟩
    exact ⟨column, rest, rfl, hrest⟩
  · rintro ⟨column, rest, rfl, hrest⟩
    exact ⟨_, rest, rfl, rfl, hrest⟩

/-- All marks before an end are read. -/
theorem parseMarks_complete (marks : List Mark) (type : TypeRef) (read rest : List Token)
    (hends : Ends (rest.map (·.kind))) (hread : read.map (·.kind) = marks.flatMap Mark.kinds) :
    parseMarks type (read ++ rest) = .ok (marks.foldl Mark.apply type, rest) := by
  induction marks generalizing type read with
  | nil =>
    obtain rfl : read = [] := by simpa using hread
    -- An end is neither of the two marks.
    unfold parseMarks
    split
    · simp_all [Ends]
    · simp_all [Ends]
    · simp_all [Ends]
    · rfl
  | cons mark marks ih =>
    cases mark with
    | question =>
      obtain ⟨column, others, rfl, hothers⟩ := (map_kind_eq_cons_iff ..).mp hread
      exact ih (.nullable type) others hothers
    | brackets =>
      obtain ⟨column, behind, rfl, hbehind⟩ := (map_kind_eq_cons_iff ..).mp hread
      obtain ⟨column', others, rfl, hothers⟩ := (map_kind_eq_cons_iff ..).mp hbehind
      exact ih (.array type) others hothers

/-- Neither a mark nor an end is the bracket before arguments. -/
theorem parseHeadArguments_none (scope : Scope) (fuel : Nat) {marks : List Mark}
    {read rest : List Token} (hends : Ends (rest.map (·.kind)))
    (hread : read.map (·.kind) = marks.flatMap Mark.kinds) :
    parseHeadArguments scope fuel (read ++ rest) = .ok ([], read ++ rest) := by
  refine (parseHeadArguments_eq_ok_iff ..).mpr (.inr ⟨?_, rfl, rfl⟩)
  intro column behind h
  have hkinds := congrArg (List.map (·.kind)) h
  rw [List.map_append, hread, List.map_cons] at hkinds
  exact marks_ne_opening hends hkinds

namespace Sentence

mutual

/-- A sentence whose names resolve is read with as much fuel as it has tokens. -/
theorem parseType_complete (scope : Scope) (sentence : Sentence) (fuel : Nat)
    (read rest : List Token) (result : TypeRef) (hread : read.map (·.kind) = sentence.kinds)
    (hvalue : sentence.evaluate scope = .ok result) (hends : Ends (rest.map (·.kind)))
    (hfuel : read.length ≤ fuel) : parseType scope fuel (read ++ rest) = .ok (result, rest) := by
  obtain ⟨name, arguments, marks⟩ := sentence
  obtain ⟨types, htypes, head, hhead, rfl⟩ := (evaluate_eq_ok_iff ..).mp hvalue
  obtain ⟨column, behind, rfl, hbehind⟩ := (map_kind_eq_cons_iff ..).mp hread
  obtain ⟨readArguments, readMarks, rfl, hreadArguments, hreadMarks⟩ :=
    List.map_eq_append_iff.mp hbehind
  obtain ⟨depth, rfl⟩ : ∃ depth, fuel = depth + 1 := ⟨fuel - 1, by simp at hfuel; omega⟩
  simp only [List.length_cons, List.length_append] at hfuel
  -- The name takes one unit of fuel, which leaves enough for what stands behind it.
  have harguments : parseHeadArguments scope depth (readArguments ++ (readMarks ++ rest))
      = .ok (types, readMarks ++ rest) :=
    parseHeadArguments_complete scope arguments depth readArguments readMarks rest types marks
      hreadArguments htypes hreadMarks hends (by omega)
  exact (parseType_eq_ok_iff ..).mpr ⟨depth, name, column, _, types, readMarks ++ rest, head, rfl,
    by simp, harguments, hhead, parseMarks_complete marks head readMarks rest hends hreadMarks⟩

/-- Arguments are read up to their closing bracket, which stands before the marks. -/
theorem parseHeadArguments_complete (scope : Scope) (arguments : List Sentence) (fuel : Nat)
    (read readMarks rest : List Token) (results : List TypeRef) (marks : List Mark)
    (hread : read.map (·.kind) = argumentKinds arguments)
    (hvalues : evaluateAll scope arguments = .ok results)
    (hmarks : readMarks.map (·.kind) = marks.flatMap Mark.kinds)
    (hends : Ends (rest.map (·.kind))) (hfuel : read.length ≤ fuel) :
    parseHeadArguments scope fuel (read ++ (readMarks ++ rest))
      = .ok (results, readMarks ++ rest) := by
  cases arguments with
  | nil =>
    obtain rfl : read = [] := by simpa [argumentKinds] using hread
    obtain rfl : [] = results := by simpa [evaluateAll, pure, Except.pure] using hvalues
    rw [List.nil_append]
    exact parseHeadArguments_none scope fuel hends hmarks
  | cons first others =>
    obtain ⟨type, htype, types, htypes, rfl⟩ := (evaluateAll_cons_eq_ok_iff ..).mp hvalues
    obtain ⟨column, inside, rfl, hinside⟩ := (map_kind_eq_cons_iff ..).mp hread
    obtain ⟨readFirst, readOthers, rfl, hfirst, hothers⟩ := List.map_eq_append_iff.mp hinside
    obtain ⟨depth, rfl⟩ : ∃ depth, fuel = depth + 1 := ⟨fuel - 1, by simp at hfuel; omega⟩
    simp only [List.length_cons, List.length_append] at hfuel
    -- The fuel is enough for the first argument and, behind it, for the others.
    have hstep : parseType scope depth (readFirst ++ (readOthers ++ (readMarks ++ rest)))
        = .ok (type, readOthers ++ (readMarks ++ rest)) :=
      parseType_complete scope first depth readFirst _ type hfirst htype
        (by rw [List.map_append, hothers]; exact ends_otherKinds others _) (by omega)
    have hall := parseArguments_complete scope others depth _ type readOthers _ types hstep hothers
      htypes (by omega)
    exact (parseHeadArguments_eq_ok_iff ..).mpr (.inl ⟨column, _, by simp, hall⟩)

/-- Behind a first argument, the others are read up to the closing bracket. -/
theorem parseArguments_complete (scope : Scope) (others : List Sentence) (depth : Nat)
    (tokens : List Token) (first : TypeRef) (read rest : List Token) (results : List TypeRef)
    (hfirst : parseType scope depth tokens = .ok (first, read ++ rest))
    (hread : read.map (·.kind) = otherKinds others)
    (hvalues : evaluateAll scope others = .ok results) (hfuel : read.length ≤ depth) :
    parseArguments scope (depth + 1) tokens = .ok (first :: results, rest) := by
  refine (parseArguments_eq_ok_iff ..).mpr ⟨depth, first, read ++ rest, rfl, hfirst, ?_⟩
  cases others with
  | nil =>
    obtain ⟨column, behind, rfl, hbehind⟩ := (map_kind_eq_cons_iff ..).mp hread
    obtain rfl : behind = [] := by simpa using hbehind
    obtain rfl : [] = results := by simpa [evaluateAll, pure, Except.pure] using hvalues
    exact .inr ⟨column, rfl, rfl⟩
  | cons next others =>
    obtain ⟨type, htype, types, htypes, rfl⟩ := (evaluateAll_cons_eq_ok_iff ..).mp hvalues
    obtain ⟨column, behind, rfl, hbehind⟩ := (map_kind_eq_cons_iff ..).mp hread
    obtain ⟨readNext, readOthers, rfl, hnext, hothers⟩ := List.map_eq_append_iff.mp hbehind
    obtain ⟨depth, rfl⟩ : ∃ less, depth = less + 1 := ⟨depth - 1, by simp at hfuel; omega⟩
    simp only [List.length_cons, List.length_append] at hfuel
    -- The comma takes one unit of fuel; the next argument ends at the comma or bracket behind it.
    have hstep : parseType scope depth (readNext ++ (readOthers ++ rest))
        = .ok (type, readOthers ++ rest) :=
      parseType_complete scope next depth readNext _ type hnext htype
        (by rw [List.map_append, hothers]; exact ends_otherKinds others _) (by omega)
    have hall := parseArguments_complete scope others depth _ type readOthers rest types hstep
      hothers htypes (by omega)
    exact .inl ⟨column, _, type :: types, by simp, hall, rfl⟩

end

end Sentence

/-! ### The descent ends by itself -/

/-- Reading a type uses up at least its name. -/
theorem length_lt_of_parseType {scope : Scope} {fuel : Nat} {tokens rest : List Token}
    {type : TypeRef} (h : parseType scope fuel tokens = .ok (type, rest)) :
    rest.length < tokens.length := by
  obtain ⟨⟨name, arguments, marks⟩, read, rfl, hread, -⟩ := (descent_sound scope fuel).1 _ _ _ h
  obtain ⟨column, others, rfl, -⟩ := (map_kind_eq_cons_iff ..).mp hread
  simp only [List.length_append, List.length_cons]
  omega

/-- More fuel changes nothing for a type if it changes nothing for arguments one level below. -/
theorem parseType_fuel {scope : Scope} {fuel : Nat}
    (ih : ∀ fuel' tokens, tokens.length < fuel → tokens.length < fuel' →
      parseArguments scope fuel tokens = parseArguments scope fuel' tokens)
    {fuel' : Nat} {tokens : List Token} (h : tokens.length ≤ fuel + 1)
    (h' : tokens.length ≤ fuel') :
    parseType scope (fuel + 1) tokens = parseType scope fuel' tokens := by
  match tokens with
  | [] => cases fuel' <;> simp [parseType]
  | ⟨.symbol c, column⟩ :: rest => cases fuel' <;> simp [parseType]
  | ⟨.name name, column⟩ :: rest =>
    cases fuel' with
    | zero => simp at h'
    | succ fuel' =>
      -- Fuel is only handed on to the arguments, behind the name and the bracket.
      have hsame : parseHeadArguments scope fuel rest = parseHeadArguments scope fuel' rest := by
        unfold parseHeadArguments
        split
        · simp only [List.length_cons] at h h'
          exact ih fuel' _ (by omega) (by omega)
        · rfl
      rw [parseType_name, parseType_name, hsame]

/-- More fuel changes nothing for arguments if it changes nothing one level below. -/
theorem parseArguments_fuel {scope : Scope} {fuel : Nat}
    (ihtype : ∀ fuel' tokens, tokens.length ≤ fuel → tokens.length ≤ fuel' →
      parseType scope fuel tokens = parseType scope fuel' tokens)
    (ih : ∀ fuel' tokens, tokens.length < fuel → tokens.length < fuel' →
      parseArguments scope fuel tokens = parseArguments scope fuel' tokens)
    {fuel' : Nat} {tokens : List Token} (h : tokens.length < fuel + 1)
    (h' : tokens.length < fuel') :
    parseArguments scope (fuel + 1) tokens = parseArguments scope fuel' tokens := by
  cases fuel' with
  | zero => simp at h'
  | succ fuel' =>
    rw [parseArguments, parseArguments, ihtype fuel' tokens (by omega) (by omega)]
    cases hfirst : parseType scope fuel' tokens with
    | error failure => rfl
    | ok result =>
      obtain ⟨first, behind⟩ := result
      -- Further arguments stand behind the first one, where fewer tokens are left.
      have hshorter := length_lt_of_parseType hfirst
      simp only [Except.bind_ok_eq]
      split
      · simp only [List.length_cons] at hshorter
        rw [ih fuel' _ (by omega) (by omega)]
      · rfl
      · rfl

/-- Fuel beyond the number of tokens changes nothing, also where the tokens are no sentence. -/
theorem descent_fuel (scope : Scope) (fuel : Nat) :
    (∀ fuel' tokens, tokens.length ≤ fuel → tokens.length ≤ fuel' →
      parseType scope fuel tokens = parseType scope fuel' tokens) ∧
    (∀ fuel' tokens, tokens.length < fuel → tokens.length < fuel' →
      parseArguments scope fuel tokens = parseArguments scope fuel' tokens) := by
  induction fuel with
  | zero =>
    refine ⟨?_, fun _ _ h => absurd h (Nat.not_lt_zero _)⟩
    intro fuel' tokens h _
    obtain rfl : tokens = [] := List.length_eq_zero_iff.mp (by omega)
    cases fuel' <;> simp [parseType]
  | succ fuel ih =>
    constructor
    · intro fuel' tokens h h'
      exact parseType_fuel ih.2 h h'
    · intro fuel' tokens h h'
      exact parseArguments_fuel ih.1 ih.2 h h'

/-- **Termination of the descent.** The descent never goes deeper than there are tokens, so the
fuel that it is started with never decides. -/
theorem parseType_eq_of_length_le (scope : Scope) (fuel : Nat) (tokens : List Token)
    (h : tokens.length ≤ fuel) :
    parseType scope fuel tokens = parseType scope (2 * tokens.length + 1) tokens :=
  (descent_fuel scope fuel).1 _ tokens h (by omega)

/-! ### Whole texts -/

/-- **The descent decides the grammar.** It accepts exactly the sentences whose names resolve, and
returns what they denote. -/
theorem parseTokens_eq_ok_iff (scope : Scope) (tokens : List Token) (type : TypeRef) :
    parseTokens scope tokens = .ok type ↔
      ∃ sentence, tokens.map (·.kind) = Sentence.kinds sentence ∧
        sentence.evaluate scope = .ok type := by
  rw [parseTokens, Except.bind_eq_ok_iff]
  constructor
  · rintro ⟨⟨result, rest⟩, hresult, h⟩
    dsimp only at h
    split at h
    -- No token may be left, so the sentence is all of them.
    · obtain rfl : result = type := by simpa [pure, Except.pure] using h
      obtain ⟨sentence, read, rfl, hread, hvalue⟩ := (descent_sound scope _).1 _ _ _ hresult
      exact ⟨sentence, by simpa using hread, hvalue⟩
    · cases h
  · rintro ⟨sentence, hkinds, hvalue⟩
    refine ⟨(type, []), ?_, rfl⟩
    have hread := Sentence.parseType_complete scope sentence (2 * tokens.length + 1) tokens [] type
      hkinds hvalue ends_nil (by omega)
    rwa [List.append_nil] at hread

/-- The text, divided into tokens, is derived by the sentence. -/
def Derives (text : String) (sentence : Sentence) : Prop :=
  Lexes text.toList sentence.kinds

/-- A text is accepted exactly if it is derived by a sentence all of whose names resolve, and then
it denotes what the sentence denotes. -/
theorem parse_eq_ok_iff (scope : Scope) (text : String) (type : TypeRef) :
    scope.parse text = .ok type ↔
      ∃ sentence, Derives text sentence ∧ sentence.evaluate scope = .ok type := by
  unfold Scope.parse
  constructor
  · intro h
    split at h
    · cases h
    · next tokens hscan =>
      obtain ⟨sentence, hkinds, hvalue⟩ :=
        (parseTokens_eq_ok_iff ..).mp (Except.mapError_eq_ok_iff.mp h)
      exact ⟨sentence, (lexes_iff_scan ..).mpr ⟨tokens, hscan, hkinds⟩, hvalue⟩
  · rintro ⟨sentence, hderives, hvalue⟩
    obtain ⟨tokens, hscan, hkinds⟩ := (lexes_iff_scan ..).mp hderives
    rw [hscan]
    exact Except.mapError_eq_ok_iff.mpr ((parseTokens_eq_ok_iff ..).mpr ⟨sentence, hkinds, hvalue⟩)

/-- No text is derived by two sentences. -/
theorem Derives.unique {text : String} {sentence sentence' : Sentence}
    (h : Derives text sentence) (h' : Derives text sentence') : sentence = sentence' :=
  Sentence.kinds_injective (Lexes.unique h h')

/-- **Type expressions are the grammar.** Acceptance, meaning and unambiguity together.  The scanner
walks down the text and the descent never goes deeper than there are tokens, so both end on every
text, sentence or not. -/
theorem parse_accepts_grammar (scope : Scope) (text : String) :
    (∀ type, scope.parse text = .ok type ↔
      ∃ sentence, Derives text sentence ∧ sentence.evaluate scope = .ok type) ∧
    (∀ sentence sentence', Derives text sentence → Derives text sentence' → sentence = sentence') ∧
    (∀ tokens fuel, tokens.length ≤ fuel →
      parseType scope fuel tokens = parseType scope (2 * tokens.length + 1) tokens) :=
  ⟨parse_eq_ok_iff scope text, fun _ _ h h' => h.unique h', fun tokens fuel hfuel =>
    parseType_eq_of_length_le scope fuel tokens hfuel⟩

end TypeExport.Expression
