import TypeExport.Proofs.Expression.Begun

/-!
# Where the descent fails

The descent reads a type within open frames.  Where it fails, it has read the beginning of a
sentence that does not go on with the next token, or a name that stands for no type.

* `FailsAt` — the two ways to fail, seen from the beginning that was read before.
* `exists_sentence_of_parseType` — the descent does not end a type that could go on.
* `descent_fails` — every failure is one of the two.
* `parseTokens_fails` — the same for all tokens of a text.
-/

namespace TypeExport.Expression

open Begun (expecting behind)

/-- The problem is about the form of a type expression and no single character or name. -/
def Problem.IsOfForm : Problem → Prop
  | expectedSymbol _ | expectedName | trailingInput => True
  | unexpectedCharacter _ | name _ => False

/-- How the descent fails on tokens behind a beginning. -/
inductive FailsAt (scope : Scope) (begun : Begun) (tokens : List Token) : Failure → Prop
  | name {before after : List Token} {word : String} {column : Nat} {arguments : List TypeRef}
      {problem : NameProblem} : tokens = before ++ ⟨.name word, column⟩ :: after →
        scope.resolve word arguments = .error problem →
          FailsAt scope begun tokens ⟨.name problem, some column⟩
  | stuck {before after : List Token} {last : Begun} {problem : Problem} :
      tokens = before ++ after → begun.pushAll (before.map (·.kind)) = some last →
        last.Stuck (after.head?.map (·.kind)) → problem.IsOfForm →
          FailsAt scope begun tokens ⟨problem, after.head?.map (·.column)⟩

variable {scope : Scope} {begun next : Begun} {tokens rest : List Token} {failure : Failure}
  {type : TypeRef} {fuel : Nat}

/-- A failure behind more tokens is one behind fewer. -/
theorem FailsAt.behind {read : List Token} (hread : begun.pushAll (read.map (·.kind)) = some next)
    (h : FailsAt scope next rest failure) : FailsAt scope begun (read ++ rest) failure := by
  cases h with
  | @name before after word column arguments problem htokens hproblem =>
    have hall : read ++ rest = (read ++ before) ++ ⟨.name word, column⟩ :: after := by
      rw [htokens, List.append_assoc]
    exact .name hall hproblem
  | @stuck before after last problem htokens hlast hstuck hform =>
    have hall : read ++ rest = (read ++ before) ++ after := by rw [htokens, List.append_assoc]
    refine .stuck hall ?_ hstuck hform
    rw [List.map_append, Begun.pushAll_append, hread, Option.bind_some, hlast]

/-- The next token is of a kind exactly if the tokens begin with it, at some column. -/
theorem head?_kind_eq_some_iff {kind : TokenKind} :
    tokens.head?.map (·.kind) = some kind ↔ ∃ column rest, tokens = ⟨kind, column⟩ :: rest := by
  cases tokens with
  | nil => simp
  | cons token rest =>
    obtain ⟨kind', column⟩ := token
    simp

/-- Tokens that do not begin with a kind have another next one. -/
theorem head?_kind_ne {kind : TokenKind} (h : ∀ column rest, tokens ≠ ⟨kind, column⟩ :: rest) :
    tokens.head?.map (·.kind) ≠ some kind := by
  rw [ne_eq, head?_kind_eq_some_iff]
  rintro ⟨column, rest, htokens⟩
  exact h column rest htokens

/-! ### Marks -/

/-- No mark stands behind the marks that are read. -/
theorem head?_of_parseMarks {result : TypeRef} (h : parseMarks type tokens = .ok (result, rest)) :
    rest.head?.map (·.kind) ≠ some (.symbol '?') ∧
      rest.head?.map (·.kind) ≠ some (.symbol '[') := by
  fun_induction parseMarks type tokens with
  | case1 type column tokens ih => exact ih h
  | case2 type column column' tokens ih => exact ih h
  | case3 => cases h
  | case4 type tokens hquestion _ hbracket =>
    obtain rfl : tokens = rest := (Prod.mk.inj (Except.ok.inj h)).2
    exact ⟨head?_kind_ne hquestion, head?_kind_ne hbracket⟩

/-- Marks fail behind an opening bracket that no closing one follows. -/
theorem parseMarks_fails (h : parseMarks type tokens = .error failure) :
    ∃ (marks : List Mark) (read after : List Token) (column : Nat),
      tokens = read ++ ⟨.symbol '[', column⟩ :: after ∧
        read.map (·.kind) = marks.flatMap Mark.kinds ∧
        after.head?.map (·.kind) ≠ some (.symbol ']') ∧
        failure = ⟨.expectedSymbol ']', after.head?.map (·.column)⟩ := by
  fun_induction parseMarks type tokens with
  | case1 type column tokens ih =>
    obtain ⟨marks, read, after, bracket, rfl, hread, hafter, hfailure⟩ := ih h
    exact ⟨.question :: marks, ⟨.symbol '?', column⟩ :: read, after, bracket, rfl,
      by simp [hread, Mark.kinds], hafter, hfailure⟩
  | case2 type column column' tokens ih =>
    obtain ⟨marks, read, after, bracket, rfl, hread, hafter, hfailure⟩ := ih h
    exact ⟨.brackets :: marks, ⟨.symbol '[', column⟩ :: ⟨.symbol ']', column'⟩ :: read, after,
      bracket, rfl, by simp [hread, Mark.kinds], hafter, hfailure⟩
  -- The bracket at hand is the one that is not closed.
  | case3 type column tokens hclosing =>
    exact ⟨[], [], tokens, column, rfl, rfl, head?_kind_ne hclosing, (Except.error.inj h).symm⟩
  | case4 => cases h

/-! ### Types that are read -/

/-- Reading arguments uses up at least their opening bracket. -/
theorem length_lt_of_parseHeadArguments {arguments : List TypeRef} {marked : List Token}
    (h : parseHeadArguments scope fuel tokens = .ok (arguments, marked))
    (hopening : tokens.head?.map (·.kind) = some (.symbol '<')) :
    marked.length < tokens.length := by
  obtain ⟨column, inside, rfl⟩ := head?_kind_eq_some_iff.mp hopening
  obtain ⟨first, others, read, rfl, -, -⟩ := (descent_sound scope fuel).2 _ _ _ h
  simp only [List.length_cons, List.length_append]
  omega

/-- What is read behind a name are arguments in their brackets, if anything. -/
theorem parseHeadArguments_sound {types : List TypeRef}
    (h : parseHeadArguments scope fuel tokens = .ok (types, rest)) :
    ∃ (arguments : List Sentence) (read : List Token), tokens = read ++ rest ∧
      read.map (·.kind) = Sentence.argumentKinds arguments := by
  obtain ⟨column, inside, rfl, harguments⟩ | ⟨-, -, rfl⟩ := (parseHeadArguments_eq_ok_iff ..).mp h
  · obtain ⟨first, others, read, rfl, hread, -⟩ := (descent_sound scope fuel).2 _ _ _ harguments
    exact ⟨first :: others, ⟨.symbol '<', column⟩ :: read, rfl,
      by simp [Sentence.argumentKinds, hread]⟩
  · exact ⟨[], [], rfl, rfl⟩

/-- **A type that is read could not go on.**  What is read is a sentence, and at the top no sentence
goes on with the next token. -/
theorem exists_sentence_of_parseType (h : parseType scope fuel tokens = .ok (type, rest)) :
    ∃ (sentence : Sentence) (read : List Token), tokens = read ++ rest ∧
      read.map (·.kind) = sentence.kinds ∧
      ∀ kind ∈ rest.head?.map (·.kind), (behind [] sentence).push kind = none := by
  obtain ⟨sentence, read, rfl, hread, -⟩ := (descent_sound scope fuel).1 _ _ _ h
  refine ⟨sentence, read, rfl, hread, fun kind hkind => ?_⟩
  obtain ⟨depth, word, column, inside, arguments, marked, head, rfl, htokens, harguments, -,
    hmarks⟩ := (parseType_eq_ok_iff ..).mp h
  cases kind with
  | name => rfl
  | symbol c =>
    obtain ⟨hquestion, hbracket⟩ := head?_of_parseMarks hmarks
    rw [hkind] at hquestion hbracket
    refine Begun.pushSymbol_eq_none_iff.mpr ⟨fun hc => hquestion (by rw [hc]),
      fun hc => hbracket (by rw [hc]), ?_, fun hne => absurd rfl hne⟩
    rintro rfl
    cases hbare : sentence.bareName? with
    | none => rfl
    | some name =>
      -- Arguments behind a bare name would have been read, so that less would be left.
      rw [Sentence.eq_of_bareName? hbare] at hread
      obtain ⟨column', others, rfl, hothers⟩ := (map_kind_eq_cons_iff ..).mp hread
      obtain rfl := List.map_eq_nil_iff.mp hothers
      obtain rfl : rest = inside := (List.cons.inj htokens).2
      have hshorter := length_lt_of_parseHeadArguments harguments hkind
      obtain ⟨marks, readMarks, rfl, -, -⟩ := parseMarks_sound _ _ _ _ hmarks
      rw [List.length_append] at hshorter
      omega

/-! ### One step of the descent -/

/-- Where no name comes next, a type fails at once. -/
theorem failsAt_of_no_name (frames : List Frame)
    (hname : ∀ name, tokens.head?.map (·.kind) ≠ some (.name name))
    (h : parseType scope fuel tokens = .error failure) :
    FailsAt scope (expecting frames) tokens failure := by
  have hfails : parseType scope fuel tokens = failAt .expectedName tokens := by
    unfold parseType
    split
    · exact absurd rfl (hname _)
    · rfl
  obtain rfl : ⟨.expectedName, _⟩ = failure := Except.error.inj (hfails.symm.trans h)
  exact .stuck (List.nil_append tokens).symm rfl (Begun.stuck_expecting hname) trivial

/-- A type fails as `FailsAt` says if arguments one level below do. -/
theorem parseType_fails
    (ih : ∀ frame frames tokens failure, tokens.length < fuel →
      parseArguments scope fuel tokens = .error failure →
        FailsAt scope (expecting (frame :: frames)) tokens failure)
    (frames : List Frame) (hlength : tokens.length ≤ fuel + 1)
    (h : parseType scope (fuel + 1) tokens = .error failure) :
    FailsAt scope (expecting frames) tokens failure := by
  by_cases hname : ∀ name, tokens.head?.map (·.kind) ≠ some (.name name)
  · exact failsAt_of_no_name frames hname h
  push Not at hname
  obtain ⟨word, hword⟩ := hname
  obtain ⟨column, inside, rfl⟩ := head?_kind_eq_some_iff.mp hword
  rw [parseType_name, Except.bind_eq_error_iff] at h
  -- Behind a name, its arguments may fail, the name with them, or the marks.
  obtain harguments | ⟨⟨arguments, marked⟩, harguments, h⟩ := h
  · unfold parseHeadArguments at harguments
    split at harguments
    · next bracket more =>
      have hread : (expecting frames).pushAll
          ([⟨.name word, column⟩, ⟨.symbol '<', bracket⟩].map Token.kind)
            = some (expecting (⟨word, []⟩ :: frames)) := rfl
      simp only [List.length_cons] at hlength
      exact (ih _ _ _ _ (by omega) harguments).behind hread
    · cases harguments
  obtain hresolve | ⟨head, -, hmarks⟩ := Except.bind_eq_error_iff.mp h
  · obtain ⟨problem, hproblem, rfl⟩ := Except.mapError_eq_error_iff.mp hresolve
    exact .name (List.nil_append _).symm hproblem
  · obtain ⟨marks, read, after, bracket, rfl, hread, hafter, rfl⟩ := parseMarks_fails hmarks
    obtain ⟨sentences, readArguments, rfl, hreadArguments⟩ := parseHeadArguments_sound harguments
    have hbehind : FailsAt scope (.behind frames (.type word sentences marks))
        (⟨.symbol '[', bracket⟩ :: after) ⟨.expectedSymbol ']', after.head?.map (·.column)⟩ :=
      .stuck (List.singleton_append).symm rfl (Begun.stuck_bracketed hafter) trivial
    have htype : (expecting frames).pushAll
        ((Token.mk (.name word) column :: (readArguments ++ read)).map (·.kind))
          = some (.behind frames (.type word sentences marks)) := by
      rw [← Sentence.pushAll_kinds, Sentence.kinds, List.map_cons, List.map_append, hreadArguments,
        hread]
    have hfails := hbehind.behind htype
    rwa [List.cons_append, List.append_assoc] at hfails

/-- Arguments fail as `FailsAt` says if types and arguments one level below do. -/
theorem parseArguments_fails
    (ihtype : ∀ frames tokens failure, tokens.length ≤ fuel →
      parseType scope fuel tokens = .error failure →
        FailsAt scope (expecting frames) tokens failure)
    (ih : ∀ frame frames tokens failure, tokens.length < fuel →
      parseArguments scope fuel tokens = .error failure →
        FailsAt scope (expecting (frame :: frames)) tokens failure)
    (frame : Frame) (frames : List Frame) (hlength : tokens.length < fuel + 1)
    (h : parseArguments scope (fuel + 1) tokens = .error failure) :
    FailsAt scope (expecting (frame :: frames)) tokens failure := by
  rw [parseArguments, Except.bind_eq_error_iff] at h
  obtain hfirst | ⟨⟨first, behind⟩, hfirst, h⟩ := h
  · exact ihtype _ _ _ (Nat.le_of_lt_succ hlength) hfirst
  obtain ⟨sentence, read, rfl, hread, hgoes⟩ := exists_sentence_of_parseType hfirst
  have hpushed : (expecting (frame :: frames)).pushAll (read.map (·.kind))
      = some (.behind (frame :: frames) sentence) := by
    rw [hread, Sentence.pushAll_kinds]
  dsimp only at h
  split at h
  · next column more =>
    -- The argument that was read joins the frame before the others are read.
    obtain hothers | ⟨_, -, hreturn⟩ := Except.bind_eq_error_iff.mp h
    · have hcomma : (expecting (frame :: frames)).pushAll
          ((read ++ [Token.mk (.symbol ',') column]).map (·.kind))
            = some (expecting (frame.withArgument sentence :: frames)) := by
        rw [List.map_append, Begun.pushAll_append, hpushed]
        rfl
      simp only [List.length_append, List.length_cons] at hlength
      have hfails := (ih _ _ _ _ (by omega) hothers).behind hcomma
      rwa [List.append_assoc, List.singleton_append] at hfails
    · cases hreturn
  · cases h
  · next hcomma hclosing =>
    obtain rfl := Except.error.inj h
    exact .stuck rfl hpushed
      (Begun.stuck_behind hgoes (head?_kind_ne hcomma) (head?_kind_ne hclosing)) trivial

/-- **Failures of the descent.** -/
theorem descent_fails (scope : Scope) (fuel : Nat) :
    (∀ frames tokens failure, tokens.length ≤ fuel →
      parseType scope fuel tokens = .error failure →
        FailsAt scope (expecting frames) tokens failure) ∧
    (∀ frame frames tokens failure, tokens.length < fuel →
      parseArguments scope fuel tokens = .error failure →
        FailsAt scope (expecting (frame :: frames)) tokens failure) := by
  induction fuel with
  | zero =>
    refine ⟨fun frames tokens failure hlength h => ?_, fun _ _ _ _ hlength => ?_⟩
    -- Without fuel there are no tokens left, so the failure is that no name follows.
    · obtain rfl := List.length_eq_zero_iff.mp (Nat.le_zero.mp hlength)
      exact failsAt_of_no_name frames (fun _ hname => by cases hname) h
    · exact absurd hlength (Nat.not_lt_zero _)
  | succ fuel ih =>
    constructor
    · intro frames tokens failure hlength h
      exact parseType_fails ih.2 frames hlength h
    · intro frame frames tokens failure hlength h
      exact parseArguments_fails ih.1 ih.2 frame frames hlength h

/-- **Failures on all tokens of a text.** -/
theorem parseTokens_fails (h : parseTokens scope tokens = .error failure) :
    FailsAt scope (expecting []) tokens failure := by
  rw [parseTokens, Except.bind_eq_error_iff] at h
  obtain htype | ⟨⟨type, rest⟩, htype, h⟩ := h
  · exact (descent_fails scope _).1 [] tokens failure (by omega) htype
  -- A whole type was read: what is left is trailing input, with which it does not go on.
  obtain ⟨sentence, read, rfl, hread, hgoes⟩ := exists_sentence_of_parseType htype
  dsimp only at h
  split at h
  · cases h
  · next hrest =>
    obtain rfl := Except.error.inj h
    refine .stuck rfl (by rw [hread, Sentence.pushAll_kinds]) ?_ trivial
    cases rest with
    | nil => exact absurd rfl hrest
    | cons token rest => exact hgoes token.kind rfl

end TypeExport.Expression
