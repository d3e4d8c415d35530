import TypeExport.Declaration.CSharp
import Mathlib.Tactic.Common

/-!
# Unsupported parts of a type

A shape may have parts that no rule covers.  What is rendered then depends on them in the same way
for both targets.

* `Shape.unsupportedNames` — the display names of the unsupported parts, from left to right.
* `Shape.substitute` — the shape with a type parameter in place of each of them.
* `FailsWithFirst` — a report without notices that fails with the first of some names.
* `AgreeSaying` — two reports with one value, of which only the first has notices.
* `declare_failsWithFirst` — strict rendering fails with the first unsupported part.
* `declare_agreeSaying` — lenient rendering warns of each unsupported part in order, and otherwise
  renders the substituted shape.
-/

namespace TypeExport

/-! ### The unsupported parts of a shape -/

namespace Shape

mutual

/-- The display names of the parts that no rule covers, from left to right. -/
def unsupportedNames : Shape → List String
  | nullable inner => unsupportedNames inner
  | array element | collection element => unsupportedNames element
  | dictionary key value => unsupportedNames key ++ unsupportedNames value
  | container _ arguments => unsupportedNamesAll arguments
  | unsupported displayName => [displayName]
  | primitive _ _ | globalEnum _ _ _ _ | domainEnum _ _ _ _ _ | entity _ _ _ | viewModel _ _ _ _
  | parameter _ => []

/-- The display names of the unsupported parts of several shapes. -/
def unsupportedNamesAll : List Shape → List String
  | [] => []
  | shape :: rest => unsupportedNames shape ++ unsupportedNamesAll rest

end

mutual

/-- The shape with a type parameter in place of every unsupported part. -/
def substitute (placeholder : String) : Shape → Shape
  | nullable inner => nullable (substitute placeholder inner)
  | array element => array (substitute placeholder element)
  | collection element => collection (substitute placeholder element)
  | dictionary key value => dictionary (substitute placeholder key) (substitute placeholder value)
  | container name arguments => container name (substituteAll placeholder arguments)
  | unsupported _ => parameter placeholder
  | primitive kind typeName => primitive kind typeName
  | globalEnum name space path metadata => globalEnum name space path metadata
  | domainEnum name space domain path metadata => domainEnum name space domain path metadata
  | entity name space metadata => entity name space metadata
  | viewModel name space path metadata => viewModel name space path metadata
  | parameter name => parameter name

/-- Several shapes with type parameters in place of their unsupported parts. -/
def substituteAll (placeholder : String) : List Shape → List Shape
  | [] => []
  | shape :: rest => substitute placeholder shape :: substituteAll placeholder rest

end

/-- A placeholder is optional exactly where the unsupported part is, which is nowhere. -/
theorem isOptional_substitute (placeholder : String) (required : Bool) (shape : Shape) :
    (shape.substitute placeholder).isOptional required = shape.isOptional required := by
  cases shape <;> rfl

end Shape

/-! ### Reports that fail with a first name -/

section FailsWithFirst

variable {α β : Type}

/-- Nothing is said; the outcome is the failure for the first of the names, or a value if there is
none. -/
def FailsWithFirst (names : List String) (report : Report UnsupportedType α) : Prop :=
  report.notices = [] ∧
    match names with
    | [] => ∃ value, report.outcome = .ok value
    | name :: _ => report.outcome = .error ⟨name⟩

/-- A value fails with no name. -/
theorem failsWithFirst_pure (value : α) :
    FailsWithFirst [] (pure value : Report UnsupportedType α) :=
  ⟨rfl, value, rfl⟩

/-- The first name of a sequence of steps is the first name of the first step that has one. -/
theorem FailsWithFirst.bind {names names' : List String} {report : Report UnsupportedType α}
    {next : α → Report UnsupportedType β} (h : FailsWithFirst names report)
    (hnext : ∀ value, FailsWithFirst names' (next value)) :
    FailsWithFirst (names ++ names') (report >>= next) := by
  obtain ⟨notices, outcome⟩ := report
  obtain ⟨hnotices, houtcome⟩ := h
  obtain rfl : notices = [] := hnotices
  cases names with
  | cons name rest =>
    obtain rfl : outcome = .error ⟨name⟩ := houtcome
    exact ⟨rfl, rfl⟩
  | nil =>
    obtain ⟨value, rfl⟩ : ∃ value, outcome = .ok value := houtcome
    exact hnext value

/-- A last step that cannot fail changes nothing. -/
theorem FailsWithFirst.map {names : List String} {report : Report UnsupportedType α}
    (h : FailsWithFirst names report) (f : α → β) :
    FailsWithFirst names (report >>= fun value => pure (f value)) := by
  have hbind := h.bind fun value => failsWithFirst_pure (f value)
  rwa [List.append_nil] at hbind

/-- The error is the one that shows the first of the names. -/
theorem FailsWithFirst.error_iff {names : List String} {report : Report UnsupportedType α}
    (h : FailsWithFirst names report) (error : UnsupportedType) :
    report.outcome = .error error ↔ names.head? = some error.displayName := by
  obtain ⟨displayName⟩ := error
  cases names with
  | nil =>
    obtain ⟨value, hvalue⟩ := h.2
    simp [hvalue]
  | cons name rest =>
    have hfail : report.outcome = .error ⟨name⟩ := h.2
    simp [hfail]

end FailsWithFirst

/-! ### Reports that agree on a value -/

section AgreeSaying

variable {ε α β : Type}

/-- Both reports succeed with one value; the first says the notices, the second says nothing. -/
def AgreeSaying (notices : List Notice) (report report' : Report ε α) : Prop :=
  ∃ value, report = ⟨notices, .ok value⟩ ∧ report' = ⟨[], .ok value⟩

/-- A value agrees with itself without a notice. -/
theorem agreeSaying_pure (value : α) : AgreeSaying [] (pure value : Report ε α) (pure value) :=
  ⟨value, rfl, rfl⟩

/-- Sequences of steps agree if their steps agree. -/
theorem AgreeSaying.bind {notices notices' : List Notice} {report report' : Report ε α}
    {next next' : α → Report ε β} (h : AgreeSaying notices report report')
    (hnext : ∀ value, AgreeSaying notices' (next value) (next' value)) :
    AgreeSaying (notices ++ notices') (report >>= next) (report' >>= next') := by
  obtain ⟨value, rfl, rfl⟩ := h
  obtain ⟨result, hresult, hresult'⟩ := hnext value
  refine ⟨result, ?_, ?_⟩
  · show (⟨notices ++ (next value).notices, (next value).outcome⟩ : Report ε β) = _
    rw [hresult]
  · show (⟨[] ++ (next' value).notices, (next' value).outcome⟩ : Report ε β) = _
    rw [hresult']
    rfl

/-- Reports that agree still do so after a change of their values. -/
theorem AgreeSaying.map {notices : List Notice} {report report' : Report ε α}
    (h : AgreeSaying notices report report') (f : α → β) :
    AgreeSaying notices (report >>= fun value => pure (f value))
      (report' >>= fun value => pure (f value)) := by
  have hbind := h.bind fun value => agreeSaying_pure (f value)
  rwa [List.append_nil] at hbind

end AgreeSaying

namespace Shape

/-! ### Strict rendering -/

mutual

/-- The bare TypeScript type of a shape fails with the first unsupported name in it. -/
theorem bareTypeScript_failsWithFirst (settings : Settings) (shape : Shape) :
    FailsWithFirst shape.unsupportedNames (bareTypeScript settings false shape) := by
  cases shape with
  | primitive kind typeName => cases kind <;> exact failsWithFirst_pure _
  | nullable inner => exact bareTypeScript_failsWithFirst settings inner
  | array element => exact (bareTypeScript_failsWithFirst settings element).map _
  | collection element => exact (bareTypeScript_failsWithFirst settings element).map _
  | dictionary key value =>
    exact (bareTypeScript_failsWithFirst settings key).bind fun _ =>
      (bareTypeScript_failsWithFirst settings value).map _
  | container name arguments => exact (argumentTypeScripts_failsWithFirst settings arguments).map _
  | unsupported displayName => exact ⟨rfl, rfl⟩
  | globalEnum | domainEnum | entity | viewModel | parameter => exact failsWithFirst_pure _

/-- The TypeScript arguments fail with the first unsupported name among them. -/
theorem argumentTypeScripts_failsWithFirst (settings : Settings) (shapes : List Shape) :
    FailsWithFirst (unsupportedNamesAll shapes) (argumentTypeScripts settings false shapes) := by
  cases shapes with
  | nil => exact failsWithFirst_pure _
  | cons shape rest =>
    exact (bareTypeScript_failsWithFirst settings shape).bind fun _ =>
      (argumentTypeScripts_failsWithFirst settings rest).map _

end

mutual

/-- The C# type of a shape fails with the first unsupported name in it. -/
theorem cSharp_failsWithFirst (settings : Settings) (shape : Shape) :
    FailsWithFirst shape.unsupportedNames (cSharp settings false shape) := by
  cases shape with
  | primitive kind typeName => cases kind <;> exact failsWithFirst_pure _
  | nullable inner => exact (cSharp_failsWithFirst settings inner).map _
  | array element => exact (cSharp_failsWithFirst settings element).map _
  | collection element => exact (cSharp_failsWithFirst settings element).map _
  | dictionary key value =>
    exact (cSharp_failsWithFirst settings key).bind fun _ =>
      (cSharp_failsWithFirst settings value).map _
  | container name arguments => exact (argumentCSharps_failsWithFirst settings arguments).map _
  | unsupported displayName => exact ⟨rfl, rfl⟩
  | globalEnum | domainEnum | entity | viewModel | parameter => exact failsWithFirst_pure _

/-- The C# arguments fail with the first unsupported name among them. -/
theorem argumentCSharps_failsWithFirst (settings : Settings) (shapes : List Shape) :
    FailsWithFirst (unsupportedNamesAll shapes) (argumentCSharps settings false shapes) := by
  cases shapes with
  | nil => exact failsWithFirst_pure _
  | cons shape rest =>
    exact (cSharp_failsWithFirst settings shape).bind fun _ =>
      (argumentCSharps_failsWithFirst settings rest).map _

end

/-- **Strict rendering** fails with the first unsupported part, for either target and whether or
not the value is required. -/
theorem declare_failsWithFirst (target : Target) (settings : Settings) (required : Bool)
    (shape : Shape) :
    FailsWithFirst shape.unsupportedNames (shape.declare target settings false required) := by
  cases target with
  | typescript => exact (bareTypeScript_failsWithFirst settings shape).map _
  | csharp => exact cSharp_failsWithFirst settings shape

/-! ### Lenient rendering -/

/-- The warnings for unsupported parts, in order. -/
def placeholderNotices (target : Target) (names : List String) : List Notice :=
  names.map fun name => .unsupportedType name target

/-- The notices of names are given in the order of the names. -/
theorem placeholderNotices_append (target : Target) (names names' : List String) :
    placeholderNotices target (names ++ names')
      = placeholderNotices target names ++ placeholderNotices target names' :=
  List.map_append

mutual

/-- A lenient TypeScript type is the strict one of the shape with placeholders, and says which names
they replace. -/
theorem bareTypeScript_agreeSaying (settings : Settings) (shape : Shape) :
    AgreeSaying (placeholderNotices .typescript shape.unsupportedNames)
      (bareTypeScript settings true shape)
      (bareTypeScript settings false (shape.substitute Target.typescript.placeholder)) := by
  cases shape with
  | primitive kind typeName => cases kind <;> exact agreeSaying_pure _
  | nullable inner => exact bareTypeScript_agreeSaying settings inner
  | array element =>
    -- The mark of the element is asked for before and after the substitution, with one answer.
    simp only [substitute, bareTypeScript, isOptional_substitute]
    exact (bareTypeScript_agreeSaying settings element).map _
  | collection element =>
    simp only [substitute, bareTypeScript, isOptional_substitute]
    exact (bareTypeScript_agreeSaying settings element).map _
  | dictionary key value =>
    simp only [substitute, bareTypeScript, isOptional_substitute, unsupportedNames,
      placeholderNotices_append]
    exact (bareTypeScript_agreeSaying settings key).bind fun _ =>
      (bareTypeScript_agreeSaying settings value).map _
  | container name arguments => exact (argumentTypeScripts_agreeSaying settings arguments).map _
  | unsupported displayName => exact ⟨⟨_, []⟩, rfl, rfl⟩
  | globalEnum | domainEnum | entity | viewModel | parameter => exact agreeSaying_pure _

/-- The same holds for the TypeScript arguments. -/
theorem argumentTypeScripts_agreeSaying (settings : Settings) (shapes : List Shape) :
    AgreeSaying (placeholderNotices .typescript (unsupportedNamesAll shapes))
      (argumentTypeScripts settings true shapes)
      (argumentTypeScripts settings false
        (substituteAll Target.typescript.placeholder shapes)) := by
  cases shapes with
  | nil => exact agreeSaying_pure _
  | cons shape rest =>
    simp only [substituteAll, argumentTypeScripts, isOptional_substitute, unsupportedNamesAll,
      placeholderNotices_append]
    exact (bareTypeScript_agreeSaying settings shape).bind fun _ =>
      (argumentTypeScripts_agreeSaying settings rest).map _

end

mutual

/-- A lenient C# type is the strict one of the shape with placeholders, and says which names they
replace. -/
theorem cSharp_agreeSaying (settings : Settings) (shape : Shape) :
    AgreeSaying (placeholderNotices .csharp shape.unsupportedNames) (cSharp settings true shape)
      (cSharp settings false (shape.substitute Target.csharp.placeholder)) := by
  cases shape with
  | primitive kind typeName => cases kind <;> exact agreeSaying_pure _
  | nullable inner => exact (cSharp_agreeSaying settings inner).map _
  | array element => exact (cSharp_agreeSaying settings element).map _
  | collection element => exact (cSharp_agreeSaying settings element).map _
  | dictionary key value =>
    simp only [unsupportedNames, placeholderNotices_append]
    exact (cSharp_agreeSaying settings key).bind fun _ =>
      (cSharp_agreeSaying settings value).map _
  | container name arguments => exact (argumentCSharps_agreeSaying settings arguments).map _
  | unsupported displayName => exact ⟨⟨_, []⟩, rfl, rfl⟩
  | globalEnum | domainEnum | entity | viewModel | parameter => exact agreeSaying_pure _

/-- The same holds for the C# arguments. -/
theorem argumentCSharps_agreeSaying (settings : Settings) (shapes : List Shape) :
    AgreeSaying (placeholderNotices .csharp (unsupportedNamesAll shapes))
      (argumentCSharps settings true shapes)
      (argumentCSharps settings false (substituteAll Target.csharp.placeholder shapes)) := by
  cases shapes with
  | nil => exact agreeSaying_pure _
  | cons shape rest =>
    simp only [unsupportedNamesAll, placeholderNotices_append]
    exact (cSharp_agreeSaying settings shape).bind fun _ =>
      (argumentCSharps_agreeSaying settings rest).map _

end

/-- **Lenient rendering** warns of each unsupported part in order, and otherwise it is strict
rendering of the substituted shape. -/
theorem declare_agreeSaying (target : Target) (settings : Settings) (required : Bool)
    (shape : Shape) :
    AgreeSaying (placeholderNotices target shape.unsupportedNames)
      (shape.declare target settings true required)
      ((shape.substitute target.placeholder).declare target settings false required) := by
  cases target with
  | typescript =>
    simp only [declare, typeScript, isOptional_substitute]
    exact (bareTypeScript_agreeSaying settings shape).map _
  | csharp => exact cSharp_agreeSaying settings shape

/-- **Unsupported parts decide alike for both targets.**  Strict rendering fails exactly if there is
an unsupported part, with the name of the first one and without a notice.  Lenient rendering always
succeeds; it warns once of each unsupported part, in order, and gives the text and imports of the
shape with a placeholder in their places. -/
theorem declare_of_unsupportedNames (target : Target) (settings : Settings) (required : Bool)
    (shape : Shape) :
    (∀ error, (shape.declare target settings false required).outcome = .error error ↔
      shape.unsupportedNames.head? = some error.displayName) ∧
    (shape.declare target settings false required).notices = [] ∧
    ∃ declaration,
      shape.declare target settings true required =
        ⟨shape.unsupportedNames.map fun name => .unsupportedType name target, .ok declaration⟩ ∧
      (shape.substitute target.placeholder).declare target settings false required
        = ⟨[], .ok declaration⟩ := by
  have hstrict := declare_failsWithFirst target settings required shape
  exact ⟨hstrict.error_iff, hstrict.1, declare_agreeSaying target settings required shape⟩

end Shape

end TypeExport
