import TypeExport.Proofs.Declaration.PropertyType

/-!
# Strict and lenient units

A unit can be generated strictly, where an unsupported type is a failure, or leniently, where a
placeholder stands for it and a warning names it.  The two runs go through the same steps up to the
first unsupported part.

* `Report.firstWarning?` — the first warning of a report.
* `OnlyRejects` — what a strict run may be beside the lenient one: the same report without a
  warning, or a failure that names what the lenient run warns of first.
* `onlyRejects_viewModels` — strict generation of a unit only rejects.
* `strict_only_rejects` — the outcomes of both runs, compared.
-/

namespace TypeExport

/-! ### First warnings -/

namespace Report

variable {ε α β : Type}

/-- The first notice of the report that is a warning. -/
def firstWarning? (report : Report ε α) : Option Notice :=
  report.notices.find? (·.level == .warning)

/-- There is no first warning exactly if there is none. -/
theorem firstWarning?_eq_none_iff {report : Report ε α} :
    report.firstWarning? = none ↔ report.warnings = [] := by
  unfold firstWarning? warnings
  rw [List.find?_eq_none, List.map_eq_nil_iff, List.filter_eq_nil_iff]

/-- A warning stays the first one whatever follows. -/
theorem firstWarning?_bind_of_eq_some {report : Report ε α} {next : α → Report ε β}
    {notice : Notice} (h : report.firstWarning? = some notice) :
    (report >>= next).firstWarning? = some notice := by
  obtain ⟨notices, outcome⟩ := report
  have hnotices : notices.find? (·.level == .warning) = some notice := h
  cases outcome with
  | error error => exact hnotices
  | ok value =>
    show (notices ++ (next value).notices).find? _ = _
    rw [List.find?_append, hnotices, Option.some_or]

/-- Notices before a report. -/
def after (notices : List Notice) (report : Report ε α) : Report ε α :=
  ⟨notices ++ report.notices, report.outcome⟩

/-- Behind notices without a warning, the first warning is that of the report. -/
theorem firstWarning?_after {notices : List Notice}
    (h : notices.find? (·.level == .warning) = none) (report : Report ε α) :
    (report.after notices).firstWarning? = report.firstWarning? := by
  show (notices ++ report.notices).find? _ = _
  rw [List.find?_append, h, Option.none_or]
  rfl

end Report

/-! ### Two runs of one computation -/

section OnlyRejects

variable {α β : Type}

/-- The first run only rejects what the second one warns of: either they are one report, without a
warning and not failed for an unsupported type, or the first fails for the type that the second
warns of first. -/
inductive OnlyRejects : Report GenerateError α → Report GenerateError α → Prop
  | same {report : Report GenerateError α} (hquiet : report.firstWarning? = none)
      (haccepted : ∀ error, report.outcome ≠ .error (.unsupported error)) :
      OnlyRejects report report
  | rejected {strict lenient : Report GenerateError α} {error : UnsupportedType}
      (hstrict : strict.outcome = .error (.unsupported error))
      (hwarned : lenient.firstWarning? = some (.unsupportedType error.displayName .typescript)) :
      OnlyRejects strict lenient

/-- A value is not rejected. -/
theorem onlyRejects_pure (value : α) :
    OnlyRejects (pure value : Report GenerateError α) (pure value) :=
  .same rfl nofun

/-- Both runs say something that is no warning. -/
theorem onlyRejects_say {notice : Notice} (h : (notice.level == .warning) = false) :
    OnlyRejects (Report.say notice) (Report.say notice) := by
  refine .same ?_ fun error herror => by cases herror
  show [notice].find? _ = none
  rw [List.find?_cons, h]
  rfl

/-- Whatever was said before, if no warning was among it. -/
theorem OnlyRejects.after {notices : List Notice} {strict lenient : Report GenerateError α}
    (hquiet : notices.find? (·.level == .warning) = none) (h : OnlyRejects strict lenient) :
    OnlyRejects (strict.after notices) (lenient.after notices) := by
  cases h with
  | same hreport haccepted =>
    refine .same ?_ haccepted
    rw [Report.firstWarning?_after hquiet, hreport]
  | rejected hstrict hwarned =>
    refine .rejected hstrict ?_
    rw [Report.firstWarning?_after hquiet, hwarned]

/-- Steps that only reject, one after the other, only reject. -/
theorem OnlyRejects.bind {strict lenient : Report GenerateError α}
    {next next' : α → Report GenerateError β} (h : OnlyRejects strict lenient)
    (hnext : ∀ value, OnlyRejects (next value) (next' value)) :
    OnlyRejects (strict >>= next) (lenient >>= next') := by
  cases h with
  | rejected hstrict hwarned =>
    refine .rejected ?_ (Report.firstWarning?_bind_of_eq_some hwarned)
    rw [Report.outcome_bind, hstrict]
    rfl
  | same hquiet haccepted =>
    obtain ⟨notices, outcome⟩ := strict
    cases outcome with
    | error error =>
      refine .same hquiet fun unsupported herror => haccepted unsupported ?_
      rw [Except.error.inj herror]
    | ok value =>
      -- Both runs go on with the value: the next step is compared behind the same notices.
      exact (hnext value).after hquiet

/-- Steps that only reject do so together. -/
theorem OnlyRejects.mapM {ι : Type} {step step' : ι → Report GenerateError α} {items : List ι}
    (h : ∀ item ∈ items, OnlyRejects (step item) (step' item)) :
    OnlyRejects (items.mapM step) (items.mapM step') := by
  induction items with
  | nil => exact onlyRejects_pure []
  | cons item items ih =>
    obtain ⟨hfirst, hothers⟩ := List.forall_mem_cons.mp h
    rw [List.mapM_cons, List.mapM_cons]
    exact hfirst.bind fun _ => (ih hothers).bind fun _ => onlyRejects_pure _

end OnlyRejects

/-! ### Units -/

section

variable (graph : TypeGraph) (settings : Settings) (documentation : Documentation)

/-- The type of a property: its shape is the same in both runs, and the first unsupported part of
it is what the one fails for and the other warns of. -/
theorem onlyRejects_propertyType (required : Bool) (type : TypeRef) :
    OnlyRejects (propertyType graph settings .typescript true required type)
      (propertyType graph settings .typescript false required type) := by
  cases hshape : graph.classify settings type with
  | error error =>
    rw [propertyType_of_classify_error hshape, propertyType_of_classify_error hshape]
    exact .same rfl nofun
  | ok shape =>
    cases hnames : shape.unsupportedNames with
    | nil =>
      obtain ⟨declaration, hdeclared⟩ :=
        propertyType_of_supported .typescript required hshape hnames
      rw [hdeclared, hdeclared]
      exact onlyRejects_pure declaration
    | cons name rest =>
      -- The first unsupported part is what the strict run fails for and the other one warns of.
      have hfails := Shape.declare_failsWithFirst .typescript settings required shape
      obtain ⟨declaration, hlenient, -⟩ :=
        Shape.declare_agreeSaying .typescript settings required shape
      have hstrict : (shape.declare .typescript settings false required).outcome
          = .error ⟨name⟩ := (hfails.error_iff ⟨name⟩).mpr (by rw [hnames]; rfl)
      have hrejected : (propertyType graph settings .typescript true required type).outcome
          = .error (.unsupported ⟨name⟩) := by
        rw [propertyType_of_classify hshape]
        show (shape.declare .typescript settings false required).outcome.mapError _ = _
        rw [hstrict]
        rfl
      have hwarned : (propertyType graph settings .typescript false required type).firstWarning?
          = some (.unsupportedType name .typescript) := by
        rw [propertyType_of_classify hshape, Bool.not_false, hlenient, hnames]
        rfl
      exact .rejected hrejected hwarned

/-- Strict generation of a unit only rejects. -/
theorem onlyRejects_viewModels (types : List TypeRef) :
    OnlyRejects (viewModels graph settings documentation true types)
      (viewModels graph settings documentation false types) := by
  have hline (ownerName : String) (property : Property) :
      OnlyRejects (viewModelProperty graph settings documentation true ownerName property)
        (viewModelProperty graph settings documentation false ownerName property) :=
    (onlyRejects_propertyType graph settings _ property.type).bind fun _ => onlyRejects_pure _
  have hclass (type : TypeRef) :
      OnlyRejects (viewModel graph settings documentation true types type)
        (viewModel graph settings documentation false types type) := by
    refine (OnlyRejects.mapM fun property _ => hline _ property).bind fun _ => ?_
    exact (onlyRejects_say rfl).bind fun _ => onlyRejects_pure _
  exact (OnlyRejects.mapM fun type _ => hclass type).bind fun _ => onlyRejects_pure _

/-- **Strict generation only rejects.**  It gives a unit exactly if lenient generation gives that
unit without a warning; where it fails for an unsupported type, the first warning of lenient
generation is for that type; and where it fails for another reason, so does lenient generation. -/
theorem strict_only_rejects (types : List TypeRef) :
    (∀ declaration,
      (viewModels graph settings documentation true types).outcome = .ok declaration ↔
        (viewModels graph settings documentation false types).outcome = .ok declaration ∧
          (viewModels graph settings documentation false types).warnings = []) ∧
    (∀ error,
      (viewModels graph settings documentation true types).outcome = .error (.unsupported error) →
        (viewModels graph settings documentation false types).firstWarning?
          = some (.unsupportedType error.displayName .typescript)) ∧
    ∀ error,
      (viewModels graph settings documentation true types).outcome = .error (.classify error) →
        (viewModels graph settings documentation false types).outcome
          = .error (.classify error) := by
  have h := onlyRejects_viewModels graph settings documentation types
  generalize viewModels graph settings documentation true types = strict at h ⊢
  generalize viewModels graph settings documentation false types = lenient at h ⊢
  simp only [← Report.firstWarning?_eq_none_iff]
  -- Either both policies do the same and nothing is to be warned of, or strictness has rejected the
  -- unit.
  cases h with
  | same hquiet haccepted =>
    refine ⟨fun declaration => ?_, fun error herror => absurd herror (haccepted error), ?_⟩
    · rw [and_iff_left hquiet]
    · exact fun error herror => herror
  | rejected hstrict hwarned =>
    rw [hstrict, hwarned]
    refine ⟨fun declaration => ?_, fun error herror => ?_, fun error herror => ?_⟩
    · constructor
      · rintro ⟨⟩
      · rintro ⟨-, hquiet⟩
        cases hquiet
    · obtain rfl := GenerateError.unsupported.inj (Except.error.inj herror)
      rfl
    · cases herror

end

/-- Places can be generated, orders have a property of an unsupported type, and the enumeration of
payments has a malformed marker. -/
def sales : TypeGraph where
  entries := [
    { facts := { name := "Place" }, properties := [{ name := "Row", type := .system "Int32" }] },
    { facts := { name := "Order" }
      properties := [{ name := "Raw", type := .array (.named "Handle" (some "Vendor")) }] },
    { facts := { name := "Payment" }, properties := [{ name := "Kind", type := .declared 3 }] },
    { facts := { name := "Kind", isEnum := true
                 markers := [⟨"Rock.Enums.EnumDomainAttribute", []⟩] } }]

/-- Places are the same under both policies, orders are rejected by the strict one, and payments by
both. -/
theorem strict_only_rejects_sales :
    (∃ declaration,
      (viewModels sales {} {} true [.declared 0]).outcome = .ok declaration ∧
      (viewModels sales {} {} false [.declared 0]).outcome = .ok declaration ∧
      (viewModels sales {} {} false [.declared 0]).warnings = []) ∧
    ((viewModels sales {} {} true [.declared 0, .declared 1]).outcome
        = .error (.unsupported ⟨"Handle"⟩) ∧
      (viewModels sales {} {} false [.declared 0, .declared 1]).firstWarning?
        = some (.unsupportedType "Handle" .typescript)) ∧
    ∃ error,
      (viewModels sales {} {} true [.declared 2]).outcome = .error (.classify error) ∧
      (viewModels sales {} {} false [.declared 2]).outcome = .error (.classify error) := by
  refine ⟨?_, ?_, ?_⟩
  · have hisOk : (viewModels sales {} {} true [.declared 0]).outcome.isOk = true := by
      decide +kernel
    -- Only the strict runs are evaluated; the lenient ones follow.
    cases hstrict : (viewModels sales {} {} true [.declared 0]).outcome with
    | error error => simp [hstrict, Except.isOk, Except.toBool] at hisOk
    | ok declaration =>
      exact ⟨declaration, rfl, ((strict_only_rejects sales {} {} _).1 declaration).mp hstrict⟩
  · have hstrict : (viewModels sales {} {} true [.declared 0, .declared 1]).outcome
        = .error (.unsupported ⟨"Handle"⟩) := by decide +kernel
    exact ⟨hstrict, (strict_only_rejects sales {} {} _).2.1 _ hstrict⟩
  · have hstrict : (viewModels sales {} {} true [.declared 2]).outcome
        = .error (.classify (.metadata
            ⟨"Rock.Enums.EnumDomainAttribute", "TypeHandle('Kind')", .missing⟩)) := by
      decide +kernel
    exact ⟨_, hstrict, (strict_only_rejects sales {} {} _).2.2 _ hstrict⟩

end TypeExport
