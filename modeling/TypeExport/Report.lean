/-!
# Reports

A computation that may fail and that says on the way what its user should know.  What was said
before a failure is kept.

* `Notice` — something worth saying, with its level, source and text.
* `Report` — the notices in order and the outcome.
* `warn`, `fail`, `ofExcept` — the ways to build one besides `pure`.
-/

namespace TypeExport

/-- The output language of a declaration. -/
inductive Target where
  | typescript
  | csharp
deriving DecidableEq, Repr

namespace Target

/-- What stands for a type that cannot be rendered. -/
def placeholder : Target → String
  | typescript => "unknown"
  | csharp => "object"

end Target

/-- How much a notice matters. -/
inductive Level where
  | debug
  | warning
deriving DecidableEq, Repr

/-- Something that the user of a computation should know. -/
inductive Notice where
  /-- A placeholder stands for an unsupported type. -/
  | unsupportedType (displayName : String) (target : Target)
  | generatedViewModel (fullName : String) (propertyCount : Nat)
  | usingSettings (path : String)
  | readingDocumentation (path : String)
deriving DecidableEq, Repr

namespace Notice

/-- Only a placeholder in the output is worth a warning. -/
def level : Notice → Level
  | unsupportedType _ _ => .warning
  | _ => .debug

/-- The part of the program that speaks. -/
def source : Notice → String
  | unsupportedType _ _ => "declgen.generator.mapper"
  | generatedViewModel _ _ => "declgen.generator.view_models"
  | usingSettings _ => "declgen.cli.main"
  | readingDocumentation _ => "declgen.cli.main"

/-- The text of the notice. -/
def text : Notice → String
  | unsupportedType displayName target =>
    "Unsupported type '" ++ displayName ++ "', emitting '" ++ target.placeholder ++ "'"
  | generatedViewModel fullName propertyCount =>
    "Generated view model " ++ fullName ++ " with " ++ toString propertyCount ++ " properties"
  | usingSettings path => "Using configuration file " ++ path
  | readingDocumentation path => "Reading documentation from " ++ path

end Notice

/-- An outcome and everything that was said on the way to it. -/
structure Report (ε α : Type) where
  notices : List Notice
  outcome : Except ε α

namespace Report

variable {ε ε' α β : Type}

/-- Say nothing and succeed. -/
protected def pure (value : α) : Report ε α :=
  ⟨[], .ok value⟩

/-- Go on with the value; a failure ends the computation. -/
protected def bind (report : Report ε α) (next : α → Report ε β) : Report ε β :=
  match report.outcome with
  | .ok value => ⟨report.notices ++ (next value).notices, (next value).outcome⟩
  | .error error => ⟨report.notices, .error error⟩

instance : Monad (Report ε) where
  pure := Report.pure
  bind := Report.bind

/-- Say something. -/
def say (notice : Notice) : Report ε Unit :=
  ⟨[notice], .ok ()⟩

/-- Say nothing and fail. -/
def fail (error : ε) : Report ε α :=
  ⟨[], .error error⟩

/-- Say nothing on the way to an outcome. -/
def ofExcept (outcome : Except ε α) : Report ε α :=
  ⟨[], outcome⟩

/-- Change the kind of error. -/
def mapError (f : ε → ε') (report : Report ε α) : Report ε' α :=
  ⟨report.notices, report.outcome.mapError f⟩

/-- The texts of the warnings, in order. -/
def warnings (report : Report ε α) : List String :=
  (report.notices.filter (·.level == .warning)).map (·.text)

end Report

end TypeExport
