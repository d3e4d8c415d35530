import TypeExport.Proofs.Expression.Denoted

/-!
# Sentences that have begun

The tokens of a sentence from the left: what has been read of a sentence, and what the next token
makes of it.  A type that stands as an argument is read before the type it is an argument of, so
the arguments that are still open are kept in frames.

* `Frame`, `Begun`, `Begun.kinds` — the beginning of a sentence, and the tokens it consists of.
* `Begun.push`, `Begun.pushAll` — the beginning with the next tokens, if a sentence can go on so.
* `Begun.kinds_push`, `Begun.kinds_pushAll` — nothing but these tokens is added.
* `Begun.exists_finished` — every beginning is the beginning of a sentence.
* `Sentence.pushAll_kinds` — every sentence is read token by token.
* `Begun.exists_pushAll_iff` — tokens stand at the head of a sentence exactly if they can be pushed.
* `Begun.Stuck` — no sentence goes on with the next token.
-/

namespace TypeExport.Expression

/-! ### Open arguments -/

/-- Arguments that are still open: the name before them, and those that were read. -/
structure Frame where
  name : String
  arguments : List Sentence

namespace Sentence

/-- The sentence with another mark behind it. -/
def withMark (mark : Mark) : Sentence → Sentence
  | type name arguments marks => type name arguments (marks ++ [mark])

/-- The name that a sentence consists of, if it has neither arguments nor marks. -/
def bareName? : Sentence → Option String
  | type name [] [] => some name
  | _ => none

/-- A mark is written behind its sentence. -/
@[simp] theorem kinds_withMark (sentence : Sentence) (mark : Mark) :
    (sentence.withMark mark).kinds = sentence.kinds ++ mark.kinds := by
  obtain ⟨name, arguments, marks⟩ := sentence
  simp [withMark, kinds]

/-- A bare name is a type without arguments and marks. -/
theorem eq_of_bareName? {sentence : Sentence} {name : String}
    (h : sentence.bareName? = some name) : sentence = .type name [] [] := by
  unfold bareName? at h
  split at h
  · rw [Option.some.inj h]
  · cases h

/-- Each of the arguments before the last one stands before a comma. -/
theorem argumentKinds_append_singleton (arguments : List Sentence) (last : Sentence) :
    argumentKinds (arguments ++ [last])
      = .symbol '<' :: (arguments.flatMap fun argument => argument.kinds ++ [.symbol ','])
        ++ last.kinds ++ [.symbol '>'] := by
  induction arguments with
  | nil => simp [argumentKinds, otherKinds]
  | cons first others ih =>
    cases others with
    | nil => simp [argumentKinds, otherKinds]
    | cons next others =>
      simp only [List.cons_append, argumentKinds, List.append_assoc, List.cons.injEq, true_and,
        otherKinds, List.flatMap_cons] at ih ⊢
      rw [ih]
      simp

end Sentence

namespace Frame

/-- The tokens from the name up to where the next argument begins. -/
def kinds (frame : Frame) : List TokenKind :=
  .name frame.name :: .symbol '<' ::
    frame.arguments.flatMap fun argument => argument.kinds ++ [.symbol ',']

/-- The frame with another argument. -/
def withArgument (frame : Frame) (argument : Sentence) : Frame :=
  { frame with arguments := frame.arguments ++ [argument] }

/-- The sentence whose last argument closes the frame. -/
def close (frame : Frame) (last : Sentence) : Sentence :=
  .type frame.name (frame.arguments ++ [last]) []

/-- A further argument is written with the comma behind it. -/
theorem kinds_withArgument (frame : Frame) (argument : Sentence) :
    (frame.withArgument argument).kinds = frame.kinds ++ argument.kinds ++ [.symbol ','] := by
  simp [kinds, withArgument]

/-- The last argument is written with the bracket behind it. -/
theorem kinds_close (frame : Frame) (last : Sentence) :
    (frame.close last).kinds = frame.kinds ++ last.kinds ++ [.symbol '>'] := by
  simp [kinds, close, Sentence.kinds, Sentence.argumentKinds_append_singleton]

end Frame

/-- The tokens of open frames, of which the innermost comes first. -/
def frameKinds : List Frame → List TokenKind
  | [] => []
  | frame :: outer => frameKinds outer ++ frame.kinds

/-! ### Beginnings -/

/-- The beginning of a sentence within open frames. -/
inductive Begun where
  /-- A type is to come. -/
  | expecting (frames : List Frame)
  /-- A type has been read, which may go on. -/
  | behind (frames : List Frame) (sentence : Sentence)
  /-- A pair of brackets behind a type has been opened. -/
  | bracketed (frames : List Frame) (sentence : Sentence)

namespace Begun

/-- The tokens of a beginning. -/
def kinds : Begun → List TokenKind
  | expecting frames => frameKinds frames
  | behind frames sentence => frameKinds frames ++ sentence.kinds
  | bracketed frames sentence => frameKinds frames ++ sentence.kinds ++ [.symbol '[']

/-- A symbol behind a type.  Only a type that is a name goes on with arguments, and only within a
frame comes another argument or the closing bracket. -/
def pushSymbol (frames : List Frame) (sentence : Sentence) (symbol : Char) : Option Begun :=
  if symbol = '?' then some (behind frames (sentence.withMark .question))
  else if symbol = '[' then some (bracketed frames sentence)
  else if symbol = '<' then sentence.bareName?.map fun name => expecting (⟨name, []⟩ :: frames)
  else if symbol = ',' then
    match frames with
    | [] => none
    | frame :: outer => some (expecting (frame.withArgument sentence :: outer))
  else if symbol = '>' then
    match frames with
    | [] => none
    | frame :: outer => some (behind outer (frame.close sentence))
  else none

/-- The beginning with the next token, if a sentence can go on so. -/
def push : Begun → TokenKind → Option Begun
  | expecting frames, .name name => some (behind frames (.type name [] []))
  | behind frames sentence, .symbol symbol => pushSymbol frames sentence symbol
  | bracketed frames sentence, .symbol ']' => some (behind frames (sentence.withMark .brackets))
  | _, _ => none

/-- The beginning with the next tokens, if a sentence can go on so. -/
def pushAll (begun : Begun) (kinds : List TokenKind) : Option Begun :=
  kinds.foldlM push begun

/-- Nothing that is pushed changes nothing. -/
@[simp] theorem pushAll_nil (begun : Begun) : begun.pushAll [] = some begun := rfl

/-- Tokens are pushed one after the other. -/
theorem pushAll_cons (begun : Begun) (kind : TokenKind) (kinds : List TokenKind) :
    begun.pushAll (kind :: kinds) = (begun.push kind).bind (pushAll · kinds) := rfl

/-- Two runs of tokens are pushed one after the other. -/
theorem pushAll_append (begun : Begun) (kinds kinds' : List TokenKind) :
    begun.pushAll (kinds ++ kinds') = (begun.pushAll kinds).bind (pushAll · kinds') :=
  List.foldlM_append

/-- A symbol that can be pushed is written behind what was begun. -/
theorem kinds_pushSymbol {frames : List Frame} {sentence : Sentence} {symbol : Char} {next : Begun}
    (h : pushSymbol frames sentence symbol = some next) :
    next.kinds = frameKinds frames ++ sentence.kinds ++ [.symbol symbol] := by
  unfold pushSymbol at h
  split_ifs at h with hquestion hbracket hopening hcomma hclosing
  · obtain rfl := Option.some.inj h
    simp [kinds, hquestion, Mark.kinds]
  · obtain rfl := Option.some.inj h
    simp [kinds, hbracket]
  · obtain ⟨name, hname, rfl⟩ := Option.map_eq_some_iff.mp h
    rw [Sentence.eq_of_bareName? hname]
    simp [kinds, frameKinds, Frame.kinds, Sentence.kinds, Sentence.argumentKinds, hopening]
  -- Commas and closing brackets belong to the innermost frame; without one they are refused.
  · cases frames with
    | nil => cases h
    | cons frame outer =>
      obtain rfl := Option.some.inj h
      simp [kinds, frameKinds, Frame.kinds_withArgument, hcomma]
  · cases frames with
    | nil => cases h
    | cons frame outer =>
      obtain rfl := Option.some.inj h
      simp [kinds, frameKinds, Frame.kinds_close, hclosing]

/-- **One token.**  What is pushed is added to the tokens of a beginning. -/
theorem kinds_push {begun next : Begun} {kind : TokenKind} (h : begun.push kind = some next) :
    next.kinds = begun.kinds ++ [kind] := by
  unfold push at h
  split at h
  · obtain rfl := Option.some.inj h
    simp [kinds, Sentence.kinds, Sentence.argumentKinds]
  · exact kinds_pushSymbol h
  · obtain rfl := Option.some.inj h
    simp [kinds, Mark.kinds]
  · cases h

/-- **All tokens.** -/
theorem kinds_pushAll {begun last : Begun} {kinds' : List TokenKind}
    (h : begun.pushAll kinds' = some last) : last.kinds = begun.kinds ++ kinds' := by
  induction kinds' generalizing begun with
  | nil =>
    obtain rfl := Option.some.inj h
    rw [List.append_nil]
  | cons kind kinds' ih =>
    rw [pushAll_cons] at h
    obtain ⟨next, hnext, hlast⟩ := Option.bind_eq_some_iff.mp h
    rw [ih hlast, kinds_push hnext, List.append_assoc, List.singleton_append]

/-! ### Every beginning can be finished -/

/-- The sentence in which all frames are closed behind a type. -/
def finish : List Frame → Sentence → Sentence
  | [], sentence => sentence
  | frame :: outer, sentence => finish outer (frame.close sentence)

/-- A sentence is finished by one closing bracket for each open one. -/
theorem kinds_finish (frames : List Frame) (sentence : Sentence) :
    (finish frames sentence).kinds
      = frameKinds frames ++ sentence.kinds ++ List.replicate frames.length (.symbol '>') := by
  induction frames generalizing sentence with
  | nil => simp [finish, frameKinds]
  | cons frame outer ih =>
    rw [finish, ih, Frame.kinds_close, List.length_cons, List.replicate_succ]
    simp [frameKinds]

/-- **Every beginning is the beginning of a sentence** that adds dotted names only. -/
theorem exists_finished (begun : Begun) :
    ∃ (sentence : Sentence) (more : List TokenKind), begun.kinds ++ more = sentence.kinds ∧
      ∀ name, .name name ∈ more → IsDottedName name.toList := by
  cases begun with
  | expecting frames =>
    -- Any name will do for the type that is to come.
    refine ⟨finish frames (.type "T" [] []),
      .name "T" :: List.replicate frames.length (.symbol '>'), ?_, ?_⟩
    · simp [kinds_finish, kinds, Sentence.kinds, Sentence.argumentKinds]
    · intro name hname
      obtain rfl : name = "T" := by simpa using hname
      exact IsSegment.isDottedName (by decide)
  | behind frames sentence =>
    exact ⟨finish frames sentence, _, (kinds_finish frames sentence).symm, by simp⟩
  | bracketed frames sentence =>
    refine ⟨finish frames (sentence.withMark .brackets),
      .symbol ']' :: List.replicate frames.length (.symbol '>'), ?_, by simp⟩
    simp [kinds_finish, kinds, Mark.kinds]

end Begun

/-! ### Every sentence is read token by token -/

namespace Begun

variable {frames : List Frame}

/-- Marks are pushed behind the ones that are there. -/
theorem pushAll_marks (name : String) (arguments : List Sentence) (marks more : List Mark) :
    (behind frames (.type name arguments marks)).pushAll (more.flatMap Mark.kinds)
      = some (behind frames (.type name arguments (marks ++ more))) := by
  induction more generalizing marks with
  | nil => simp
  | cons mark more ih =>
    have hmark : (behind frames (.type name arguments marks)).pushAll mark.kinds
        = some (behind frames (.type name arguments (marks ++ [mark]))) := by
      cases mark <;> rfl
    rw [List.flatMap_cons, pushAll_append, hmark, Option.bind_some, ih, List.append_assoc,
      List.singleton_append]

end Begun

namespace Sentence

open Begun (behind expecting)

mutual

/-- **A sentence** is read from where a type is to come. -/
theorem pushAll_kinds (sentence : Sentence) (frames : List Frame) :
    (expecting frames).pushAll sentence.kinds = some (behind frames sentence) := by
  obtain ⟨name, arguments, marks⟩ := sentence
  rw [kinds, Begun.pushAll_cons, Begun.push, Option.bind_some, Begun.pushAll_append,
    pushAll_argumentKinds arguments name frames, Option.bind_some, Begun.pushAll_marks,
    List.nil_append]

/-- Arguments are read behind a name. -/
theorem pushAll_argumentKinds (arguments : List Sentence) (name : String) (frames : List Frame) :
    (behind frames (.type name [] [])).pushAll (argumentKinds arguments)
      = some (behind frames (.type name arguments [])) := by
  cases arguments with
  | nil => rfl
  | cons first others =>
    have hopening : (behind frames (.type name [] [])).push (.symbol '<')
        = some (expecting (⟨name, []⟩ :: frames)) := rfl
    rw [argumentKinds, Begun.pushAll_cons, hopening, Option.bind_some, Begun.pushAll_append,
      pushAll_kinds first, Option.bind_some, pushAll_otherKinds others first]
    rfl

/-- The other arguments are read behind an argument, up to the closing bracket. -/
theorem pushAll_otherKinds (others : List Sentence) (argument : Sentence) (frame : Frame)
    (frames : List Frame) :
    (behind (frame :: frames) argument).pushAll (otherKinds others)
      = some (behind frames (.type frame.name (frame.arguments ++ argument :: others) [])) := by
  cases others with
  | nil => rfl
  | cons next others =>
    have hcomma : (behind (frame :: frames) argument).push (.symbol ',')
        = some (expecting (frame.withArgument argument :: frames)) := rfl
    rw [otherKinds, Begun.pushAll_cons, hcomma, Option.bind_some, Begun.pushAll_append,
      pushAll_kinds next, Option.bind_some, pushAll_otherKinds others next]
    simp [Frame.withArgument]

end

end Sentence

/-! ### Where no sentence goes on -/

namespace Begun

variable {frames : List Frame} {before : List TokenKind} {begun : Begun}

/-- **Viable prefixes.**  Tokens stand at the head of a sentence exactly if they can be pushed one
after another. -/
theorem exists_pushAll_iff (before : List TokenKind) :
    (∃ begun, (expecting []).pushAll before = some begun) ↔
      ∃ sentence : Sentence, before <+: sentence.kinds := by
  constructor
  · rintro ⟨begun, hbegun⟩
    obtain ⟨sentence, more, hmore, -⟩ := begun.exists_finished
    rw [kinds_pushAll hbegun] at hmore
    exact ⟨sentence, more, hmore⟩
  · rintro ⟨sentence, more, hmore⟩
    have hall := sentence.pushAll_kinds []
    rw [← hmore, pushAll_append] at hall
    obtain ⟨begun, hbegun, -⟩ := Option.bind_eq_some_iff.mp hall
    exact ⟨begun, hbegun⟩

/-- No sentence goes on with the next token.  If there is none, the beginning is no whole
sentence. -/
def Stuck (begun : Begun) : Option TokenKind → Prop
  | some kind => begun.push kind = none
  | none => ∀ sentence, begun ≠ behind [] sentence

/-- No sentence begins with a token at which reading is stuck. -/
theorem Stuck.not_prefix {kind : TokenKind} (hstuck : begun.Stuck (some kind))
    (hbegun : (expecting []).pushAll before = some begun) (sentence : Sentence) :
    ¬ before ++ [kind] <+: sentence.kinds := by
  intro hprefix
  obtain ⟨next, hnext⟩ := (exists_pushAll_iff _).mpr ⟨sentence, hprefix⟩
  rw [pushAll_append, hbegun, Option.bind_some, pushAll_cons, hstuck] at hnext
  cases hnext

/-- No sentence ends where reading is stuck at the end. -/
theorem Stuck.kinds_ne (hstuck : begun.Stuck none)
    (hbegun : (expecting []).pushAll before = some begun) (sentence : Sentence) :
    sentence.kinds ≠ before := by
  rintro rfl
  rw [sentence.pushAll_kinds] at hbegun
  exact hstuck sentence (Option.some.inj hbegun).symm

/-- Where a type is expected, reading is stuck at all but a name. -/
theorem stuck_expecting {next? : Option TokenKind} (h : ∀ name, next? ≠ some (.name name)) :
    (expecting frames).Stuck next? := by
  cases next? with
  | none => exact fun _ heq => by cases heq
  | some kind =>
    cases kind with
    | name name => exact absurd rfl (h name)
    | symbol symbol => rfl

/-- Behind an opening square bracket, reading is stuck at all but the closing one. -/
theorem stuck_bracketed {sentence : Sentence} {next? : Option TokenKind}
    (h : next? ≠ some (.symbol ']')) : (bracketed frames sentence).Stuck next? := by
  cases next? with
  | none => exact fun _ heq => by cases heq
  | some kind =>
    unfold Stuck push
    split <;> simp_all

/-- A symbol cannot be pushed exactly if it is no mark, opens no arguments of a bare name, and
separates or closes no arguments that are open. -/
theorem pushSymbol_eq_none_iff {sentence : Sentence} {symbol : Char} :
    pushSymbol frames sentence symbol = none ↔
      symbol ≠ '?' ∧ symbol ≠ '[' ∧ (symbol = '<' → sentence.bareName? = none) ∧
        (frames ≠ [] → symbol ≠ ',' ∧ symbol ≠ '>') := by
  unfold pushSymbol
  split_ifs with hquestion hbracket hopening hcomma hclosing
  · simp [hquestion]
  · simp [hbracket]
  · simp [hopening]
  · cases frames <;> simp [hcomma]
  · cases frames <;> simp [hclosing]
  · simp [hquestion, hbracket, hopening, hcomma, hclosing]

/-- A type that is stuck at the top is stuck within frames, unless a comma or a closing bracket
follows. -/
theorem stuck_behind {sentence : Sentence} {frame : Frame} {next? : Option TokenKind}
    (h : ∀ kind ∈ next?, (behind [] sentence).push kind = none)
    (hcomma : next? ≠ some (.symbol ',')) (hclosing : next? ≠ some (.symbol '>')) :
    (behind (frame :: frames) sentence).Stuck next? := by
  cases next? with
  | none => exact fun _ heq => by cases heq
  | some kind =>
    have hstuck := h kind rfl
    cases kind with
    | name name => rfl
    | symbol symbol =>
      -- Frames matter to commas and closing brackets only.
      obtain ⟨hquestion, hbracket, hopening, -⟩ := pushSymbol_eq_none_iff.mp hstuck
      refine pushSymbol_eq_none_iff.mpr ⟨hquestion, hbracket, hopening, fun _ => ⟨?_, ?_⟩⟩
      · exact fun heq => hcomma (by rw [heq])
      · exact fun heq => hclosing (by rw [heq])

end Begun

end TypeExport.Expression
