import TypeExport.Command.Run
import TypeExport.Proofs.Command.Options
import TypeExport.Proofs.Files.Writing
import TypeExport.Proofs.ViewModel.Strict

/-!
# All, nothing or a beginning

A command line generates its whole text before it touches anything.  If that fails, nothing is shown
and no file is written.  Then the text goes to one place: to the standard output, or to the file
that the line names.  The file is opened first, and that empties it, so a text that cannot be
stored as a whole leaves only a beginning of itself in the file.  Where the text goes does not
change it, and neither does strictness, as long as nothing is rejected.

* `Report.Within` — what one report succeeds with, another one succeeds with.
* `within_propertyType`, `within_entityBag` — strict generation within generation of any policy.
* `Command.Request.within_generate` — a strict request within the request.
* `Command.Request.generate_output` — the text does not depend on where it goes.
* `Command.Request.Reaches`, `Command.Request.BreaksOff` — a text gets to its place, or only a
  beginning of it does.
* `Command.Request.write_of_shown`, `Command.Request.write_of_opens`,
  `Command.Request.write_of_not_opens` — what writing does, by where the text should go.
* `Command.run_of_exitCode_ne_zero`, `Command.text_of_exitCode` — failure and success of a line.
* `Command.exitCode_eq_zero_iff` — when a line succeeds.
* `Command.writtenAt_of_plain`, `Command.run_of_stricter` — lines with and without an option.
* `Command.all_nothing_or_beginning` — all of this for command lines.
* `Command.failing_line_empties_file` — a line that fails and leaves an emptied file.
-/

namespace TypeExport

/-! ### Strictness -/

namespace Report

variable {ε ε' α β ι : Type}

/-- Whatever the first report succeeds with, the second one succeeds with. -/
def Within (strict lenient : Report ε α) : Prop :=
  ∀ value, strict.outcome = .ok value → lenient.outcome = .ok value

/-- A report is within itself. -/
theorem within_refl (report : Report ε α) : report.Within report :=
  fun _ h => h

/-- Reports within others are so one after the other. -/
theorem Within.bind {strict lenient : Report ε α} {next next' : α → Report ε β}
    (h : strict.Within lenient) (hnext : ∀ value, (next value).Within (next' value)) :
    (strict >>= next).Within (lenient >>= next') := by
  intro result hresult
  rw [outcome_bind, Except.bind_eq_ok_iff] at hresult ⊢
  obtain ⟨value, hvalue, hresult⟩ := hresult
  exact ⟨value, h value hvalue, hnext value result hresult⟩

/-- Reports within others over a list are so together. -/
theorem Within.mapM {step step' : ι → Report ε β} (items : List ι)
    (h : ∀ item, (step item).Within (step' item)) :
    (items.mapM step).Within (items.mapM step') := by
  induction items with
  | nil => exact within_refl _
  | cons item items ih =>
    -- The results are put together in a last step, which is the same for both.
    rw [List.mapM_cons, List.mapM_cons]
    exact (h item).bind fun _ => ih.bind fun _ => within_refl _

/-- Renaming errors keeps a report within the other. -/
theorem Within.mapError {strict lenient : Report ε α} (f : ε → ε') (h : strict.Within lenient) :
    (strict.mapError f).Within (lenient.mapError f) := by
  intro value hvalue
  exact Except.mapError_eq_ok_iff.mpr (h value (Except.mapError_eq_ok_iff.mp hvalue))

end Report

/-- A run that only rejects succeeds with what the other one succeeds with. -/
theorem OnlyRejects.within {α : Type} {strict lenient : Report GenerateError α}
    (h : OnlyRejects strict lenient) : strict.Within lenient := by
  cases h with
  | same hquiet haccepted => exact Report.within_refl _
  | rejected hstrict hwarned =>
    -- A rejected run has no value.
    intro value hvalue
    rw [hstrict] at hvalue
    cases hvalue

section

variable (graph : TypeGraph) (settings : Settings) (documentation : Documentation)

/-- A strictly declared type has no unsupported parts, and then the policy does not matter. -/
theorem within_propertyType (target : Target) (strict required : Bool) (type : TypeRef) :
    (propertyType graph settings target true required type).Within
      (propertyType graph settings target strict required type) := by
  intro declaration hdeclaration
  obtain ⟨shape, hshape, hdeclared⟩ := propertyType_eq_ok_iff.mp hdeclaration
  have hfails := Shape.declare_failsWithFirst target settings required shape
  -- With an unsupported part, the strict declaration would have failed.
  cases hnames : shape.unsupportedNames with
  | nil =>
    obtain ⟨supported, hsupported⟩ :=
      propertyType_of_supported target required hshape hnames
    rw [hsupported] at hdeclaration ⊢
    exact hdeclaration
  | cons name names =>
    have herror : (shape.declare target settings false required).outcome = .error ⟨name⟩ :=
      (hfails.error_iff ⟨name⟩).mpr (by rw [hnames]; rfl)
    rw [Bool.not_true, herror] at hdeclared
    cases hdeclared

/-- The strict view models are within those of any policy. -/
theorem within_viewModels (strict : Bool) (types : List TypeRef) :
    (viewModels graph settings documentation true types).Within
      (viewModels graph settings documentation strict types) := by
  cases strict with
  | true => exact Report.within_refl _
  | false => exact (onlyRejects_viewModels graph settings documentation types).within

/-- The strict bag is within that of any policy. -/
theorem within_entityBag (strict : Bool) (entityName : String) (summary? : Option String)
    (properties : List OwnedProperty) :
    (entityBag graph settings documentation true entityName summary? properties).Within
      (entityBag graph settings documentation strict entityName summary? properties) := by
  have hline (owned : OwnedProperty) :
      (bagProperty graph settings documentation true owned).Within
        (bagProperty graph settings documentation strict owned) :=
    (within_propertyType graph settings .csharp strict true owned.property.type).bind
      fun _ => Report.within_refl _
  exact (Report.Within.mapM _ hline).bind fun _ => Report.within_refl _

end

namespace Command

namespace Request

/-- A strict request succeeds with nothing but what the request succeeds with. -/
theorem within_generate (request : Request) (home : String) (files : FileTree) :
    (generate { request with strict := true } home files).Within
      (request.generate home files) := by
  obtain ⟨task, config?, docs, output?, strict, verbose⟩ := request
  cases task with
  | viewModels catalog names =>
    refine (Report.within_refl _).bind fun workspace => ?_
    -- Only the generator looks at the policy; catalog, handles and documents are read alike.
    refine (Report.within_refl _).bind fun types => ?_
    refine (Report.within_refl _).bind fun workspace => ?_
    refine Report.Within.bind ?_ fun _ => Report.within_refl _
    exact ((within_viewModels _ _ _ _ types).mapError _).mapError _
  -- Enumerations, constants and options have no unsupported types to reject.
  | enums catalog names => exact Report.within_refl _
  | constants catalog names => exact Report.within_refl _
  | entityBag catalog entity space =>
    refine (Report.within_refl _).bind fun workspace => ?_
    refine (Report.within_refl _).bind fun type => ?_
    refine (Report.within_refl _).bind fun workspace => ?_
    refine Report.Within.bind ?_ fun _ => Report.within_refl _
    exact ((within_entityBag _ _ _ _ _ _ _).mapError _).mapError _
  | optionsBag name space summary? => exact Report.within_refl _

/-- Where the text goes does not change it. -/
theorem generate_output (request : Request) (output? : Option Path) (home : String)
    (files : FileTree) :
    generate { request with output? } home files = request.generate home files := by
  obtain ⟨task, config?, docs, output?, strict, verbose⟩ := request
  cases task <;> rfl

/-! ### Places of texts -/

/-- What a request shows of what it wrote. -/
def Written.output : Written → String
  | toOutput text => text
  | toFile _ _ | broken _ _ => ""

/-- The files that a request leaves behind. -/
def Written.files (files : FileTree) : Written → FileTree
  | toOutput _ => files
  | toFile _ later | broken _ later => later

/-- The text is where it should be. -/
def Written.succeeds : Written → Bool
  | toOutput _ | toFile _ _ => true
  | broken _ _ => false

/-- A text gets to where a request wants it: it can be shown, or the whole of it can be stored in a
file that can be opened. -/
def Reaches (request : Request) (files : FileTree) (text : String) : Prop :=
  match request.output? with
  | none => Text.isEncodable files.standIn text = true
  | some path => files.Opens path ∧ files.stored text = text

/-- A text breaks off in the file of a request: the file can be opened, but not the whole text can
be stored. -/
def BreaksOff (request : Request) (files : FileTree) (path : Path) (text : String) : Prop :=
  request.output? = some path ∧ files.Opens path ∧ files.stored text ≠ text

section

variable {request : Request} {files : FileTree} {text : String}

/-- Without a file to write to, a text is shown, and no file is touched. -/
theorem write_of_shown (files : FileTree) (text : String) (h : request.output? = none) :
    ((request.write files text).succeeds = true ↔ request.Reaches files text) ∧
      (request.write files text).output
        = (if (request.write files text).succeeds then text else "") ∧
      (request.write files text).files files = files := by
  unfold write Reaches
  rw [h]
  dsimp only
  split
  · next hencodable => exact ⟨iff_of_true rfl hencodable, rfl, rfl⟩
  · next hencodable => exact ⟨iff_of_false nofun hencodable, rfl, rfl⟩

/-- A text that is written to a file is not shown.  What can be stored of it is in the file. -/
theorem write_of_opens (text : String) {path : Path} (h : request.output? = some path)
    (hopens : files.Opens path) :
    ((request.write files text).succeeds = true ↔ request.Reaches files text) ∧
      (request.write files text).output = "" ∧
      files.WrittenAt ((request.write files text).files files) path (files.stored text) := by
  obtain ⟨outcome, later, hwrite, hwritten, hall⟩ := FileTree.writeWithFolders_of_opens hopens text
  unfold write Reaches
  rw [h]
  simp only [hwrite, and_iff_right hopens, ← hall]
  -- The file has the same text either way; only the exit tells whether all of it is there.
  cases outcome with
  | ok => exact ⟨iff_of_true rfl rfl, rfl, hwritten⟩
  | error obstacle => exact ⟨iff_of_false nofun nofun, rfl, hwritten⟩

/-- A text is not written to a file that cannot be opened, and no file is touched. -/
theorem write_of_not_opens (text : String) {path : Path} (h : request.output? = some path)
    (hopens : ¬ files.Opens path) :
    ((request.write files text).succeeds = true ↔ request.Reaches files text) ∧
      (request.write files text).output = "" ∧
      files.SameTexts ((request.write files text).files files) := by
  obtain ⟨obstacle, later, hwrite, hsame⟩ := FileTree.writeWithFolders_of_not_opens hopens text
  unfold write Reaches
  rw [h]
  simp only [hwrite]
  exact ⟨iff_of_false nofun fun hreaches => hopens hreaches.1, rfl, hsame⟩

/-- A text gets to its place exactly if that is possible. -/
theorem succeeds_write_iff :
    (request.write files text).succeeds = true ↔ request.Reaches files text := by
  cases houtput : request.output? with
  | none => exact (write_of_shown files text houtput).1
  | some path =>
    by_cases hopens : files.Opens path
    · exact (write_of_opens text houtput hopens).1
    · exact (write_of_not_opens text houtput hopens).1

/-- A text is shown, or it is written to one file. -/
theorem write_of_succeeds (h : (request.write files text).succeeds = true) :
    match request.output? with
    | none =>
      (request.write files text).output = text ∧ (request.write files text).files files = files
    | some path =>
      (request.write files text).output = "" ∧
        files.WrittenAt ((request.write files text).files files) path text := by
  have hreaches := succeeds_write_iff.mp h
  cases houtput : request.output? with
  | none =>
    obtain ⟨-, hshown, hfiles⟩ := write_of_shown files text houtput
    rw [h] at hshown
    exact ⟨hshown, hfiles⟩
  | some path =>
    -- All of the text is stored, or the write would not have succeeded.
    unfold Reaches at hreaches
    rw [houtput] at hreaches
    obtain ⟨hopens, hall⟩ := hreaches
    obtain ⟨-, hshown, hwritten⟩ := write_of_opens text houtput hopens
    rw [hall] at hwritten
    exact ⟨hshown, hwritten⟩

/-- A text that does not get to its place is not shown.  No file changes, unless the text breaks off
in the file that it should be written to. -/
theorem write_of_not_succeeds (h : (request.write files text).succeeds = false) :
    (request.write files text).output = "" ∧
      (files.SameTexts ((request.write files text).files files) ∨
        ∃ path, request.BreaksOff files path text ∧
          files.WrittenAt ((request.write files text).files files) path (files.stored text)) := by
  have hreaches : ¬ request.Reaches files text := by
    rw [← succeeds_write_iff, h]
    exact Bool.false_ne_true
  cases houtput : request.output? with
  | none =>
    obtain ⟨-, hshown, hfiles⟩ := write_of_shown files text houtput
    rw [h] at hshown
    refine ⟨hshown, .inl fun location => ?_⟩
    rw [hfiles]
  | some path =>
    -- Either the file was opened and cut, or it was not even opened.
    by_cases hopens : files.Opens path
    · obtain ⟨-, hshown, hwritten⟩ := write_of_opens text houtput hopens
      refine ⟨hshown, .inr ⟨path, ⟨houtput, hopens, fun hall => hreaches ?_⟩, hwritten⟩⟩
      unfold Reaches
      rw [houtput]
      exact ⟨hopens, hall⟩
    · obtain ⟨-, hshown, hsame⟩ := write_of_not_opens text houtput hopens
      exact ⟨hshown, .inl hsame⟩

/-- A text that breaks off leaves what could be stored of it. -/
theorem write_of_breaksOff {path : Path} (h : request.BreaksOff files path text) :
    (request.write files text).succeeds = false ∧ (request.write files text).output = "" ∧
      files.WrittenAt ((request.write files text).files files) path (files.stored text) := by
  obtain ⟨houtput, hopens, hpart⟩ := h
  obtain ⟨hreaches, hshown, hwritten⟩ := write_of_opens text houtput hopens
  refine ⟨Bool.eq_false_iff.mpr fun hsucceeds => hpart ?_, hshown, hwritten⟩
  have hall := hreaches.mp hsucceeds
  unfold Reaches at hall
  rw [houtput] at hall
  exact hall.2

end

end Request

/-! ### Command lines -/

section

variable {home : String} {files : FileTree} {line : List String} {request : Request}

/-- A line that is read runs as its request. -/
theorem run_of_read (h : Request.read line = .ok request) :
    run home files line = .ofReport request.verbose files (request.run home files) := by
  unfold run
  rw [h]

/-- What a request leaves behind when its text is generated and then written. -/
theorem run_of_generated (h : Request.read line = .ok request) {text : String}
    (hgenerate : (request.generate home files).outcome = .ok text) :
    ((run home files line).exitCode = 0 ↔ (request.write files text).succeeds = true) ∧
      (run home files line).output = (request.write files text).output ∧
      (run home files line).files = (request.write files text).files files := by
  have hrun : (request.run home files).outcome = .ok (request.write files text) := by
    unfold Request.run
    rw [Report.outcome_bind, hgenerate]
    rfl
  rw [run_of_read h]
  unfold Outcome.ofReport
  rw [hrun]
  -- The exit code, the output and the files depend only on where the text got.
  generalize request.write files text = written
  cases written with
  | toOutput | toFile => exact ⟨iff_of_true rfl rfl, rfl, rfl⟩
  | broken => exact ⟨iff_of_false nofun nofun, rfl, rfl⟩

/-- A line that fails before its text is generated leaves everything alone. -/
theorem run_of_not_generated (h : Request.read line = .ok request) {failure : Failure}
    (hgenerate : (request.generate home files).outcome = .error failure) :
    (run home files line).exitCode = 1 ∧ (run home files line).output = "" ∧
      (run home files line).files = files := by
  have hrun : (request.run home files).outcome = .error failure := by
    unfold Request.run
    rw [Report.outcome_bind, hgenerate]
    rfl
  rw [run_of_read h]
  unfold Outcome.ofReport
  rw [hrun]
  exact ⟨rfl, rfl, rfl⟩

/-- A line that fails shows nothing.  It leaves the texts of all files alone, unless its own text
breaks off. -/
theorem run_of_exitCode_ne_zero (hcode : (run home files line).exitCode ≠ 0) :
    (run home files line).output = "" ∧
      (files.SameTexts (run home files line).files ∨
        ∃ request path text, Request.read line = .ok request ∧
          (request.generate home files).outcome = .ok text ∧
          request.BreaksOff files path text ∧ (files.stored text).toList <+: text.toList ∧
          files.WrittenAt (run home files line).files path (files.stored text)) := by
  cases hread : Request.read line with
  | error stop =>
    -- No request, so nothing has been done.
    unfold run at hcode ⊢
    rw [hread] at hcode ⊢
    cases stop with
    | help => exact absurd rfl hcode
    | usage | noPath => exact ⟨rfl, .inl fun _ => rfl⟩
  | ok request =>
    cases hgenerate : (request.generate home files).outcome with
    | error failure =>
      obtain ⟨-, houtput, hfiles⟩ := run_of_not_generated hread hgenerate
      refine ⟨houtput, .inl fun location => ?_⟩
      rw [hfiles]
    | ok text =>
      obtain ⟨hsucceeds, houtput, hfiles⟩ := run_of_generated hread hgenerate
      rw [houtput, hfiles]
      obtain ⟨hnothing, hwritten⟩ :=
        Request.write_of_not_succeeds (Bool.eq_false_iff.mpr (mt hsucceeds.mpr hcode))
      refine ⟨hnothing, hwritten.imp_right fun ⟨path, hbreaks, hpart⟩ => ?_⟩
      exact ⟨request, path, text, rfl, hgenerate, hbreaks, FileTree.stored_isPrefix text, hpart⟩

/-- A line succeeds exactly if its text is generated and gets to its place. -/
theorem exitCode_eq_zero_iff (h : Request.read line = .ok request) :
    (run home files line).exitCode = 0 ↔
      ∃ text, (request.generate home files).outcome = .ok text ∧ request.Reaches files text := by
  cases hgenerate : (request.generate home files).outcome with
  | error failure =>
    obtain ⟨hfailed, -⟩ := run_of_not_generated h hgenerate
    rw [hfailed]
    refine iff_of_false nofun ?_
    rintro ⟨text, htext, -⟩
    cases htext
  | ok text =>
    -- There is only the one text that may be asked about.
    rw [(run_of_generated h hgenerate).1, Request.succeeds_write_iff]
    exact ⟨fun hreaches => ⟨text, rfl, hreaches⟩,
      fun ⟨other, hsame, hreaches⟩ => Except.ok.inj hsame ▸ hreaches⟩

/-- A line whose text breaks off fails, and leaves what could be stored of it. -/
theorem run_of_breaksOff (h : Request.read line = .ok request) {path : Path} {text : String}
    (hgenerate : (request.generate home files).outcome = .ok text)
    (hbreaks : request.BreaksOff files path text) :
    (run home files line).exitCode ≠ 0 ∧ (run home files line).output = "" ∧
      files.WrittenAt (run home files line).files path (files.stored text) := by
  obtain ⟨hsucceeds, houtput, hfiles⟩ := run_of_generated h hgenerate
  obtain ⟨hfails, hshown, hwritten⟩ := Request.write_of_breaksOff hbreaks
  rw [houtput, hfiles]
  refine ⟨fun hcode => ?_, hshown, hwritten⟩
  rw [hsucceeds, hfails] at hcode
  cases hcode

/-- A request that succeeds has generated its text and then written it. -/
theorem written_of_exitCode (h : Request.read line = .ok request)
    (hcode : (run home files line).exitCode = 0) :
    ∃ text, (request.generate home files).outcome = .ok text ∧
      (request.write files text).succeeds = true := by
  obtain ⟨text, htext, hreaches⟩ := (exitCode_eq_zero_iff h).mp hcode
  exact ⟨text, htext, Request.succeeds_write_iff.mpr hreaches⟩

/-- A request that succeeds puts its text in one place. -/
theorem text_of_exitCode (h : Request.read line = .ok request)
    (hcode : (run home files line).exitCode = 0) :
    ∃ text, (request.generate home files).outcome = .ok text ∧
      match request.output? with
      | none =>
        (run home files line).output = text ∧ files.SameTexts (run home files line).files
      | some path =>
        (run home files line).output = "" ∧
          files.WrittenAt (run home files line).files path text := by
  obtain ⟨text, htext, hsucceeds⟩ := written_of_exitCode h hcode
  obtain ⟨-, houtput, hfiles⟩ := run_of_generated h htext
  have hplace := Request.write_of_succeeds hsucceeds
  refine ⟨text, htext, ?_⟩
  rw [houtput, hfiles]
  cases hpath : request.output? with
  | none =>
    rw [hpath] at hplace
    obtain ⟨hshown, hkept⟩ := hplace
    refine ⟨hshown, fun location => ?_⟩
    rw [hkept]
  | some path =>
    rw [hpath] at hplace
    exact hplace

/-- The text that a line writes to a file is the text that it shows without one. -/
theorem writtenAt_of_plain {plain : List String} {path : Path}
    (hplain : Request.read plain = .ok { request with output? := none })
    (hline : Request.read line = .ok { request with output? := some path })
    (hcode : (run home files line).exitCode = 0) :
    (run home files plain).exitCode = 0 ∧
      files.WrittenAt (run home files line).files path (run home files plain).output := by
  obtain ⟨text, hgenerate, hopens, hall⟩ := (exitCode_eq_zero_iff hline).mp hcode
  rw [Request.generate_output] at hgenerate
  -- What can be stored can be shown.
  have hreaches : Request.Reaches { request with output? := none } files text :=
    (FileTree.stored_eq_self_iff.mp hall).1
  have hplainCode : (run home files plain).exitCode = 0 := by
    refine (exitCode_eq_zero_iff hplain).mpr ⟨text, ?_, hreaches⟩
    rw [Request.generate_output, hgenerate]
  obtain ⟨shown, hshown, houtput, -⟩ := text_of_exitCode hplain hplainCode
  obtain ⟨written, hwritten, -, hat⟩ := text_of_exitCode hline hcode
  rw [Request.generate_output, hgenerate] at hshown hwritten
  obtain rfl := Except.ok.inj hshown
  obtain rfl := Except.ok.inj hwritten
  refine ⟨hplainCode, ?_⟩
  rw [houtput]
  exact hat

/-- Strictness that rejects nothing changes nothing. -/
theorem run_of_stricter {stricter : List String} (h : Request.read line = .ok request)
    (hstricter : Request.read stricter = .ok { request with strict := true })
    (hcode : (run home files stricter).exitCode = 0) :
    (run home files line).exitCode = 0 ∧
      (run home files line).output = (run home files stricter).output ∧
      (run home files line).files = (run home files stricter).files := by
  obtain ⟨text, htext, hsucceeds⟩ := written_of_exitCode hstricter hcode
  obtain ⟨-, hstrictOutput, hstrictFiles⟩ := run_of_generated hstricter htext
  have hgenerate := request.within_generate home files text htext
  obtain ⟨hcode, houtput, hfiles⟩ := run_of_generated h hgenerate
  rw [hstrictOutput, hstrictFiles]
  -- Writing does not ask for strictness.
  exact ⟨hcode.mpr hsucceeds, houtput, hfiles⟩

end

/-- **All, nothing or a beginning.**  A line that fails shows nothing and changes no file, unless it
has generated a text that breaks off in the file that the line names: the file could be opened, but
not the whole text stored, and then only a beginning of the text is left in it.  A request succeeds
exactly if its text is generated and gets to its place.  Then it either shows the text and changes
no file, or shows nothing and writes the text to the one file that the line names.  The text of that
file is what the line shows without an output, and a line that succeeds strictly does the same
without strictness.  Both options may stand right behind the name of the task, where they say
nothing else. -/
theorem all_nothing_or_beginning (home : String) (files : FileTree) (line : List String) :
    ((run home files line).exitCode ≠ 0 →
      (run home files line).output = "" ∧
        (files.SameTexts (run home files line).files ∨
          ∃ request path text, Request.read line = .ok request ∧
            (request.generate home files).outcome = .ok text ∧
            request.BreaksOff files path text ∧ (files.stored text).toList <+: text.toList ∧
            files.WrittenAt (run home files line).files path (files.stored text))) ∧
    ∀ request, Request.read line = .ok request →
      ((run home files line).exitCode = 0 ↔
        ∃ text, (request.generate home files).outcome = .ok text ∧ request.Reaches files text) ∧
      (∀ path text, (request.generate home files).outcome = .ok text →
        request.BreaksOff files path text →
          (run home files line).exitCode ≠ 0 ∧
            files.WrittenAt (run home files line).files path (files.stored text)) ∧
      ((run home files line).exitCode = 0 →
        ∃ text, (request.generate home files).outcome = .ok text ∧
          match request.output? with
          | none =>
            (run home files line).output = text ∧ files.SameTexts (run home files line).files
          | some path =>
            (run home files line).output = "" ∧
              files.WrittenAt (run home files line).files path text) ∧
      (request.output? = none →
        ∀ saving path, Request.read saving = .ok { request with output? := some path } →
          (run home files saving).exitCode = 0 →
            (run home files line).exitCode = 0 ∧
              files.WrittenAt (run home files saving).files path (run home files line).output) ∧
      (∀ stricter, Request.read stricter = .ok { request with strict := true } →
        (run home files stricter).exitCode = 0 →
          (run home files line).exitCode = 0 ∧
            (run home files line).output = (run home files stricter).output ∧
            (run home files line).files = (run home files stricter).files) ∧
      ∀ name rest, line = name :: rest →
        Request.read (name :: "--strict" :: rest) = .ok { request with strict := true } ∧
          (request.output? = none → ∀ text, text ≠ "--" →
            Request.read (name :: outputWord text :: rest)
              = .ok { request with output? := some (.ofText text) }) := by
  refine ⟨run_of_exitCode_ne_zero, fun request hread => ⟨exitCode_eq_zero_iff hread, ?_,
    text_of_exitCode hread, ?_, ?_, ?_⟩⟩
  · intro path text hgenerate hbreaks
    obtain ⟨hcode, -, hwritten⟩ := run_of_breaksOff hread hgenerate hbreaks
    exact ⟨hcode, hwritten⟩
  · intro hnone saving path hsaving hcode
    have hplain : Request.read line = .ok { request with output? := none } := by
      rw [← hnone, hread]
    exact writtenAt_of_plain hplain hsaving hcode
  · intro stricter hstricter hcode
    exact run_of_stricter hread hstricter hcode
  · rintro name rest rfl
    refine ⟨Request.read_strict hread, fun hnone text htext => ?_⟩
    exact Request.read_output htext hnone hread

/-- A folder with a catalog of one class. -/
def placeFiles : FileTree :=
  .ofFiles [("t.yaml", "types: [\x7bname: Place\x7d]")]

/-- The view models of the catalog. -/
def placeRequest : Request where
  task := .viewModels (.ofText "t.yaml") []

/-- A missing catalog leaves nothing behind; the class is shown, or written to a file in a new
folder, and strictness does not change it. -/
theorem all_nothing_or_beginning_place :
    ((run "/work" placeFiles ["view-models", "u.yaml"]).exitCode = 1 ∧
      (run "/work" placeFiles ["view-models", "u.yaml"]).output = "" ∧
      placeFiles.SameTexts (run "/work" placeFiles ["view-models", "u.yaml"]).files) ∧
    ((run "/work" placeFiles ["view-models", outputWord "a/b.ts", "t.yaml"]).exitCode = 0 ∧
      placeFiles.WrittenAt
        (run "/work" placeFiles ["view-models", outputWord "a/b.ts", "t.yaml"]).files
        (.ofText "a/b.ts") (run "/work" placeFiles ["view-models", "t.yaml"]).output) ∧
    (run "/work" placeFiles ["view-models", "--strict", "t.yaml"]).exitCode = 0 ∧
      (run "/work" placeFiles ["view-models", "t.yaml"]).output
        = (run "/work" placeFiles ["view-models", "--strict", "t.yaml"]).output := by
  have hread : Request.read ["view-models", "t.yaml"] = .ok placeRequest := by decide
  obtain ⟨-, hrequest⟩ := all_nothing_or_beginning "/work" placeFiles ["view-models", "t.yaml"]
  obtain ⟨-, -, -, hsaving, hstricter, hoptions⟩ := hrequest placeRequest hread
  obtain ⟨hstrictRead, houtputRead⟩ := hoptions _ _ rfl
  refine ⟨?_, ?_, ?_⟩
  · obtain ⟨hfailing, -⟩ := all_nothing_or_beginning "/work" placeFiles ["view-models", "u.yaml"]
    have hcode : (run "/work" placeFiles ["view-models", "u.yaml"]).exitCode = 1 := by
      decide +kernel
    obtain ⟨hnothing, hsame | ⟨request, path, text, hline, -, ⟨houtput, -⟩, -⟩⟩ :=
      hfailing (by rw [hcode]; exact Nat.one_ne_zero)
    · exact ⟨hcode, hnothing, hsame⟩
    · -- The line names no file in which a text could break off.
      have hplain : Request.read ["view-models", "u.yaml"]
          = .ok { task := .viewModels (.ofText "u.yaml") [] } := by decide
      rw [hplain] at hline
      obtain rfl := Except.ok.inj hline
      cases houtput
  -- The runs are evaluated for their exit codes only; the rest follows from these.
  · have hcode : (run "/work" placeFiles
        ["view-models", outputWord "a/b.ts", "t.yaml"]).exitCode = 0 := by decide +kernel
    have hwritten := hsaving rfl _ _ (houtputRead rfl "a/b.ts" (by decide)) hcode
    exact ⟨hcode, hwritten.2⟩
  · have hcode : (run "/work" placeFiles
        ["view-models", "--strict", "t.yaml"]).exitCode = 0 := by decide +kernel
    have hsame := hstricter _ hstrictRead hcode
    exact ⟨hcode, hsame.2.1⟩

/-- A folder with a catalog whose only constant has a surrogate, and with an older output. -/
def areaFiles : FileTree :=
  .ofFiles [
    ("c.yaml",
      "types: [\x7bname: Area, constants: [\x7bname: LAND, value: \"a\\uD800b\"\x7d]\x7d]"),
    ("out.ts", "export \x7b\x7d;\n")]

/-- A line that fails may change a file after all: the older output is gone. -/
theorem failing_line_empties_file :
    (run "/work" areaFiles ["system-guids", "c.yaml", "-o", "out.ts"]).exitCode = 1 ∧
      areaFiles.file? ["out.ts"] = some "export \x7b\x7d;\n" ∧
      (run "/work" areaFiles ["system-guids", "c.yaml", "-o", "out.ts"]).files.file? ["out.ts"]
        = some "" := by
  decide +kernel

end Command

end TypeExport
