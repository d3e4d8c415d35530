import TypeExport.Command.Request
import TypeExport.Proofs.Outcome

/-!
# Options behind the name of a task

An option that stands right behind the name of a task is read before everything else.  It leaves the
other words what they are, so the request is the one of the line without it, apart from what the
option says.

* `Arguments.behind` — arguments with one more option in front.
* `Arguments.readFrom_behind` — reading goes on in the same way behind an option.
* `Arguments.read_cons_option` — the arguments of a line that starts with an option.
* `Request.read_cons_eq_ok_iff` — the request of a line is that of its task.
* `Request.read_strict`, `Request.read_output` — what strictness and an output add to a request.
-/

namespace TypeExport.Command

variable {switches : List Switch} {slots : List Slot}

/-- In front of a separator, each word is read on its own. -/
theorem Word.readAll_cons {word : String} (h : word ≠ "--") (line : List String) :
    readAll switches (word :: line)
      = (do return (← read? switches word) :: (← readAll switches line)) :=
  readAll.eq_3 switches word line fun heq => h heq

namespace Arguments

/-! ### Arguments behind an option -/

/-- The arguments with one more option in front of the others. -/
def behind (option : Switch × List String) (arguments : Arguments) : Arguments :=
  { arguments with options := option :: arguments.options }

/-- What is given to other options does not change. -/
theorem given_behind_of_ne {option : Switch × List String} {switch : Switch}
    (h : option.1 ≠ switch) (arguments : Arguments) :
    (arguments.behind option).given switch = arguments.given switch := by
  unfold given behind
  rw [List.filter_cons_of_neg (by rw [beq_iff_eq]; exact h)]

/-- What is given to the option itself comes first. -/
theorem given_behind (switch : Switch) (texts : List String) (arguments : Arguments) :
    (arguments.behind (switch, texts)).given switch = texts :: arguments.given switch := by
  unfold given behind
  rw [List.filter_cons_of_pos (by rw [beq_iff_eq]), List.map_cons]

/-- Another option does not change whether a switch is given. -/
theorem has_behind_of_ne {option : Switch × List String} {switch : Switch}
    (h : option.1 ≠ switch) (arguments : Arguments) :
    (arguments.behind option).has switch = arguments.has switch := by
  unfold has behind
  rw [List.any_cons, beq_eq_false_iff_ne.mpr h, Bool.false_or]

/-- Of the options, the task depends on its namespace and its summary only. -/
theorem task?_behind {option : Switch × List String} {kind : TaskKind} {arguments : Arguments}
    (hspace : option.1 ≠ .space) (hsummary : option.1 ≠ .summary) :
    (arguments.behind option).task? kind = arguments.task? kind := by
  simp only [task?, value?, last?, given_behind_of_ne hspace, given_behind_of_ne hsummary]
  rfl

/-- Options and operands are read independently: an option that is there already only stays in
front. -/
theorem readFrom_behind (option : Switch × List String) (fuel : Nat) (arguments : Arguments)
    (words : List Word) :
    readFrom switches slots fuel (arguments.behind option) words
      = (readFrom switches slots fuel arguments words).map (behind option) := by
  -- No test looks at the options that were read, so both sides take the same turn.
  fun_induction readFrom switches slots fuel arguments words with
  | case1 arguments words => rfl
  | case2 fuel arguments hfuel =>
    cases fuel with
    | zero => exact absurd rfl hfuel
    | succ fuel => rfl
  | case3 fuel arguments naming rest hunknown ih =>
    rw [← ih, readFrom, hunknown]
    rfl
  | case4 fuel arguments naming rest switch hswitch hnone =>
    rw [readFrom, hswitch]
    dsimp only
    rw [hnone]
    rfl
  | case5 fuel arguments naming rest switch hswitch options others hsome hhelp =>
    rw [readFrom, hswitch]
    dsimp only
    rw [hsome]
    dsimp only
    rw [if_pos hhelp]
    rfl
  | case6 fuel arguments naming rest switch hswitch options others hsome hhelp ih =>
    rw [← ih, readFrom, hswitch]
    dsimp only
    rw [hsome]
    dsimp only
    rw [if_neg hhelp]
    rfl
  | case7 fuel arguments words hwords hoption run ih =>
    rw [← ih, readFrom]
    · rfl
    · exact hwords
    · exact hoption

/-! ### Words that name an option -/

/-- A line that starts with an option has the arguments of the line without it, behind the
option. -/
theorem read_cons_option {word : String} {naming : Naming} {switch : Switch}
    {option : Switch × List String} (hdashes : word ≠ "--")
    (hword : Word.read? switches word = some (.option naming))
    (hswitch : naming.switch? = some switch)
    (htake : ∀ rest, takeOption switches naming switch rest = some ([option], rest))
    (hhelp : option.1 ≠ .help) (line : List String) :
    read switches slots (word :: line) = (read switches slots line).map (behind option) := by
  unfold read
  rw [Word.readAll_cons hdashes, hword]
  cases hline : Word.readAll switches line with
  | none => rfl
  | some words =>
    -- One more word brings one more unit of fuel, which this option takes.
    show readFrom switches slots (words.length + 1 + 1) {} (.option naming :: words) = _
    rw [readFrom, hswitch]
    dsimp only
    rw [htake]
    dsimp only
    rw [if_neg (by simpa using hhelp)]
    exact readFrom_behind option (words.length + 1) {} words

end Arguments

/-! ### The two options -/

/-- The word that gives an output in one piece. -/
def outputWord (text : String) : String :=
  "--output=" ++ text

/-- The word that names the output is the switch, an equals sign and the path. -/
theorem outputWord_toList (text : String) :
    (outputWord text).toList = "--output".toList ++ '=' :: text.toList := by
  simp [outputWord]

/-- No name has an equals sign in it. -/
theorem switchNamed?_outputWord (switches : List Switch) (text : String) :
    Word.switchNamed? switches (outputWord text) = none := by
  refine List.find?_eq_none.mpr fun switch _ hmem => ?_
  have hnames : ∀ name ∈ switch.names, '=' ∉ name.toList := by
    cases switch <;> decide
  refine hnames (outputWord text) (List.contains_iff_mem.mp hmem) ?_
  rw [outputWord_toList]
  exact List.mem_append_right _ List.mem_cons_self

/-- That word is split at its equals sign. -/
theorem splitValue?_outputWord (text : String) :
    Word.splitValue? (outputWord text) = some ("--output", text.toList) := by
  unfold Word.splitValue?
  rw [outputWord_toList]
  rfl

/-- That word does not end the options. -/
theorem outputWord_ne_separator (text : String) : outputWord text ≠ "--" := by
  intro h
  have hlist := congrArg String.toList h
  rw [outputWord_toList] at hlist
  simp at hlist

/-- The word is long enough for an option and starts like one. -/
theorem isOptionLike_outputWord (text : String) :
    ((outputWord text).length ≤ 1 || !(['-'].isPrefixOf (outputWord text).toList)) = false := by
  have hname : "--output".length = 8 := by decide
  have hlength : (outputWord text).length = 8 + (text.length + 1) := by
    rw [← String.length_toList, outputWord_toList, List.length_append, List.length_cons,
      String.length_toList, String.length_toList, hname]
  -- The name alone is longer than a dash.
  have hlong : ¬ (outputWord text).length ≤ 1 := by omega
  rw [decide_eq_false hlong, outputWord_toList]
  rfl

/-- Where the output is an option, the word names it and holds its value. -/
theorem read?_outputWord {switches : List Switch}
    (h : Word.switchNamed? switches "--output" = some .output) (text : String) :
    Word.read? switches (outputWord text)
      = some (.option { switch? := some .output, attached? := some text.toList }) := by
  unfold Word.read?
  rw [if_neg (by rw [isOptionLike_outputWord]; exact Bool.false_ne_true),
    switchNamed?_outputWord]
  -- The part before the equals sign is the name of one option, and of no other.
  have hnamings : Word.namings switches (outputWord text)
      = [{ switch? := some .output, attached? := some text.toList }] := by
    unfold Word.namings
    rw [splitValue?_outputWord, Option.bind_some]
    dsimp only
    rw [h]
    rfl
  dsimp only
  rw [hnamings]

/-- In front of the name of a task, the word is nothing that is known. -/
theorem isSome_read?_outputWord (text : String) :
    (Word.read? [.help] (outputWord text)).isSome = true := by
  unfold Word.read?
  rw [if_neg (by rw [isOptionLike_outputWord]; exact Bool.false_ne_true),
    switchNamed?_outputWord]
  -- The only option there begins with other letters.
  have hnamings : Word.namings [.help] (outputWord text) = [] := by
    unfold Word.namings
    rw [splitValue?_outputWord, Option.bind_some, outputWord_toList]
    show Word.longNamings [.help] (outputWord text) = []
    unfold Word.longNamings
    rw [splitValue?_outputWord]
    rfl
  dsimp only
  rw [hnamings]
  dsimp only
  split <;> rfl

namespace Arguments

/-- The switch of strictness in front adds itself to the arguments. -/
theorem read_cons_strict (kind : TaskKind) (line : List String) :
    read kind.switches kind.slots ("--strict" :: line)
      = (read kind.switches kind.slots line).map (behind (.strict, [])) := by
  have hword :
      Word.read? kind.switches "--strict" = some (.option { switch? := some .strict }) := by
    cases kind <;> decide
  refine read_cons_option (by decide) hword rfl (fun rest => ?_) (by decide) line
  -- The switch takes no values, in whatever task.
  cases kind <;> rfl

/-- The output in front adds itself to the arguments. -/
theorem read_cons_output (kind : TaskKind) {text : String} (htext : text ≠ "--")
    (line : List String) :
    read kind.switches kind.slots (outputWord text :: line)
      = (read kind.switches kind.slots line).map (behind (.output, [text])) := by
  refine read_cons_option (outputWord_ne_separator text) (read?_outputWord ?_ text) rfl
    (fun rest => ?_) (by simp) line
  · cases kind <;> decide
  -- A separator would be taken out of the values, but the text is none.
  · have htexts : textsOf [String.ofList text.toList] = [text] := by
      rw [String.ofList_toList]
      exact List.erase_of_not_mem (by simpa [separatorText] using htext.symm)
    show some ([] ++ [(Switch.output, textsOf [String.ofList text.toList])], rest) = _
    rw [htexts]
    rfl

end Arguments

/-- An operand is the word itself. -/
theorem Word.eq_of_read?_eq_operand {switches : List Switch} {word text : String}
    (h : read? switches word = some (.operand text)) : text = word := by
  -- A word is an operand if it is not like an option, or is like one that nothing knows.
  unfold read? at h
  split at h
  · obtain rfl : word = text := by simpa using h
    rfl
  · split at h
    · cases h
    · split at h
      · cases h
      · split at h
        · obtain rfl : word = text := by simpa using h
          rfl
        · cases h
      · cases h

/-- An operand is the word that it was, and the words behind it are read on their own. -/
theorem Word.readAll_cons_eq_some {switches : List Switch} {word text : String}
    {line : List String} {others : List Word}
    (h : readAll switches (word :: line) = some (.operand text :: others)) :
    text = word ∧ readAll switches line = some others := by
  by_cases hdashes : word = "--"
  · subst hdashes
    cases h
  · rw [readAll_cons hdashes] at h
    obtain ⟨first, hfirst, h⟩ := Option.bind_eq_some_iff.mp h
    obtain ⟨rest, hrest, h⟩ := Option.bind_eq_some_iff.mp h
    have hcons : first :: rest = .operand text :: others := Option.some.inj h
    obtain ⟨rfl, rfl⟩ := List.cons.inj hcons
    exact ⟨eq_of_read?_eq_operand hfirst, hrest⟩

namespace Request

/-- The name of a task is no option. -/
theorem read?_taskName {name : String} {kind : TaskKind} (h : TaskKind.ofName? name = some kind) :
    name ≠ "--" ∧ Word.read? [.help] name = some (.operand name) := by
  unfold TaskKind.ofName? at h
  split at h
  case h_6 => cases h
  all_goals exact ⟨by decide, by decide⟩

/-- A task that is named first makes its request from the rest of the line. -/
theorem read_cons_eq_ok_iff {name : String} {line : List String} {request : Request} :
    read (name :: line) = .ok request ↔
      ∃ kind, TaskKind.ofName? name = some kind ∧ (Word.readAll [.help] line).isSome = true ∧
        readTask kind line = .ok request := by
  constructor
  · intro h
    unfold read at h
    rw [List.isEmpty_cons, if_neg Bool.false_ne_true] at h
    split at h
    · cases h
    · next words hwords =>
      obtain ⟨-, -, hrun⟩ := Except.bind_eq_ok_iff.mp h
      split at hrun
      · next word others first rest hdrop hrest =>
        split at hrun
        · cases hrun
        · next kind hkind =>
          cases hempty : (words.takeWhile Arguments.isOption).isEmpty with
          | false =>
            -- Options in front of the name leave an error.
            rw [hempty] at hrun
            split at hrun
            · contradiction
            · cases hrun
            · cases hrun
          | true =>
            -- Nothing stands in front of the name, so it is the first word.
            have hnone : words.takeWhile Arguments.isOption = [] := List.isEmpty_iff.mp hempty
            rw [hempty] at hrun
            rw [hnone] at hdrop hrest
            obtain ⟨rfl, rfl⟩ := List.cons.inj hrest
            have hfirst : words = .operand word :: others := hdrop
            rw [hfirst] at hwords
            obtain ⟨rfl, hline⟩ := Word.readAll_cons_eq_some hwords
            exact ⟨kind, hkind, by rw [hline]; rfl, hrun⟩
      · cases hrun
  · rintro ⟨kind, hkind, hline, h⟩
    obtain ⟨hdashes, hname⟩ := read?_taskName hkind
    obtain ⟨words, hwords⟩ := Option.isSome_iff_exists.mp hline
    -- The name comes first, so no options stand before it.
    have hall : Word.readAll [.help] (name :: line) = some (.operand name :: words) := by
      rw [Word.readAll_cons hdashes, hname, hwords]
      rfl
    unfold read
    rw [List.isEmpty_cons, if_neg Bool.false_ne_true, hall]
    dsimp only
    rw [List.takeWhile_cons_of_neg (l := words) Bool.false_ne_true]
    simp only [List.length_nil, List.drop_zero, hkind]
    exact h

/-- A request with the options that arguments give. -/
def ofArguments (task : Task) (arguments : Arguments) : Request where
  task
  config? := (arguments.value? .config).map Path.ofText
  docs := (arguments.values .docs).map Path.ofText
  output? := (arguments.value? .output).map Path.ofText
  strict := arguments.has .strict
  verbose := arguments.has .verbose

/-- A task is read from arguments that make it up, with none left over and no path missing. -/
theorem readTask_eq_ok_iff {kind : TaskKind} {line : List String} {request : Request} :
    readTask kind line = .ok request ↔
      ∃ arguments task, Arguments.read kind.switches kind.slots line = .ok arguments ∧
        arguments.task? kind = some task ∧ arguments.hasExtras = false ∧
        arguments.lacksPath kind = false ∧ ofArguments task arguments = request := by
  unfold readTask
  rw [Except.bind_eq_ok_iff]
  constructor
  · rintro ⟨arguments, hread, h⟩
    -- Arguments that are left over, or a missing path, stop the line before there is a request.
    split at h
    · next task htask hextras =>
      split at h
      · cases h
      · next hpaths =>
        exact ⟨arguments, task, hread, htask, hextras, Bool.eq_false_iff.mpr hpaths,
          Except.ok.inj h⟩
    · cases h
  · rintro ⟨arguments, task, hread, htask, hextras, hpaths, rfl⟩
    refine ⟨arguments, hread, ?_⟩
    rw [htask, hextras]
    dsimp only
    rw [hpaths, if_neg Bool.false_ne_true]
    rfl

/-- **Strictness** behind the name of a task adds nothing but strictness. -/
theorem read_strict {name : String} {line : List String} {request : Request}
    (h : read (name :: line) = .ok request) :
    read (name :: "--strict" :: line) = .ok { request with strict := true } := by
  obtain ⟨kind, hkind, hline, h⟩ := read_cons_eq_ok_iff.mp h
  obtain ⟨arguments, task, hread, htask, hextras, hpaths, rfl⟩ := readTask_eq_ok_iff.mp h
  refine read_cons_eq_ok_iff.mpr ⟨kind, hkind, ?_, readTask_eq_ok_iff.mpr
    ⟨arguments.behind (.strict, []), task, ?_, ?_, hextras, ?_, ?_⟩⟩
  · obtain ⟨words, hwords⟩ := Option.isSome_iff_exists.mp hline
    rw [Word.readAll_cons (by simp), hwords]
    rfl
  · rw [Arguments.read_cons_strict, hread]
    rfl
  · rw [Arguments.task?_behind (by simp) (by simp), htask]
  -- No other option is asked for by the checks and by the fields of the request.
  · rw [← hpaths]
    simp only [Arguments.lacksPath, Arguments.last?, Arguments.given_behind_of_ne, ne_eq,
      reduceCtorEq, not_false_eq_true]
  · simp only [ofArguments, Arguments.value?, Arguments.values, Arguments.last?,
      Arguments.given_behind_of_ne, Arguments.has_behind_of_ne, ne_eq, reduceCtorEq,
      not_false_eq_true]
    rfl

/-- **An output** behind the name of a task adds nothing but the output, if there is none. -/
theorem read_output {name text : String} {line : List String} {request : Request}
    (htext : text ≠ "--") (hnone : request.output? = none)
    (h : read (name :: line) = .ok request) :
    read (name :: outputWord text :: line)
      = .ok { request with output? := some (.ofText text) } := by
  obtain ⟨kind, hkind, hline, h⟩ := read_cons_eq_ok_iff.mp h
  obtain ⟨arguments, task, hread, htask, hextras, hpaths, rfl⟩ := readTask_eq_ok_iff.mp h
  -- Without an output, nothing was given for one: a separator in its place is refused.
  have hgiven : arguments.given .output = [] := by
    have hlast : arguments.last? .output ≠ some [] := by
      intro hlast
      simp [Arguments.lacksPath, hlast] at hpaths
    cases hgiven : (arguments.given .output).getLast? with
    | none => exact List.getLast?_eq_none_iff.mp hgiven
    | some texts =>
      cases texts with
      | nil => exact absurd hgiven hlast
      | cons path paths => simp [ofArguments, Arguments.value?, Arguments.last?, hgiven] at hnone
  have hlast : (arguments.behind (.output, [text])).last? .output = some [text] := by
    rw [Arguments.last?, Arguments.given_behind, hgiven]
    rfl
  refine read_cons_eq_ok_iff.mpr ⟨kind, hkind, ?_, readTask_eq_ok_iff.mpr
    ⟨arguments.behind (.output, [text]), task, ?_, ?_, hextras, ?_, ?_⟩⟩
  · obtain ⟨words, hwords⟩ := Option.isSome_iff_exists.mp hline
    obtain ⟨word, hword⟩ := Option.isSome_iff_exists.mp (isSome_read?_outputWord text)
    rw [Word.readAll_cons (outputWord_ne_separator text), hword, hwords]
    rfl
  · rw [Arguments.read_cons_output kind htext, hread]
    rfl
  · rw [Arguments.task?_behind (by simp) (by simp), htask]
  · unfold Arguments.lacksPath at hpaths ⊢
    obtain ⟨hfront, hdocs⟩ := Bool.or_eq_false_iff.mp hpaths
    obtain ⟨hconfig, -⟩ := Bool.or_eq_false_iff.mp hfront
    rw [hlast, Arguments.last?, Arguments.given_behind_of_ne (by simp), ← Arguments.last?,
      hconfig, Arguments.given_behind_of_ne (by simp), hdocs]
    rfl
  · unfold ofArguments
    simp only [Arguments.value?, hlast]
    simp only [Arguments.values, Arguments.last?, Arguments.given_behind_of_ne,
      Arguments.has_behind_of_ne, ne_eq, reduceCtorEq, not_false_eq_true]
    rfl

end Request

end TypeExport.Command
