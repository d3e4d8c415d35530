import TypeExport.Proofs.Declaration.Imports
import TypeExport.Proofs.Declaration.Unsupported
import TypeExport.ViewModel

/-!
# Types of properties

The declaration of a property's type is the declaration of its shape: nothing is left to
settle where rendering and the failure policy agree.

* `Declaration.settle_declare` — settling changes nothing.
* `propertyType_of_classify`, `propertyType_of_classify_error`, `propertyType_eq_ok_iff` — a type is
  declared when it has a shape that is.
* `mem_imports_propertyType` — the imports of a property's TypeScript type.
* `propertyType_of_supported` — a shape without unsupported parts is declared whatever the policy.
-/

namespace TypeExport

variable {graph : TypeGraph} {settings : Settings} {target : Target} {strict required : Bool}

/-! ### Settled declarations -/

/-- Strict rendering keeps its failure, and lenient rendering has none. -/
theorem Declaration.settle_declare (target : Target) (settings : Settings) (strict required : Bool)
    (shape : Shape) :
    settle target strict (shape.declare target settings (!strict) required)
      = shape.declare target settings (!strict) required := by
  unfold settle
  split
  · rfl
  · next error herror =>
    cases strict with
    | true => rfl
    | false =>
      obtain ⟨declaration, hlenient, -⟩ := Shape.declare_agreeSaying target settings required shape
      rw [Bool.not_false, hlenient] at herror
      cases herror

/-- The declaration of a type is that of its shape. -/
theorem propertyType_of_classify {type : TypeRef} {shape : Shape}
    (h : graph.classify settings type = .ok shape) :
    propertyType graph settings target strict required type
      = (shape.declare target settings (!strict) required).mapError .unsupported := by
  simp only [propertyType, h, Declaration.settle_declare]
  rfl

/-- A type without a shape is not declared, and nothing is said of it. -/
theorem propertyType_of_classify_error {type : TypeRef} {error : ClassifyError}
    (h : graph.classify settings type = .error error) :
    propertyType graph settings target strict required type = ⟨[], .error (.classify error)⟩ := by
  unfold propertyType
  rw [h]
  rfl

/-- A type is declared when it has a shape and the shape is declared. -/
theorem propertyType_eq_ok_iff {type : TypeRef} {declaration : Declaration} :
    (propertyType graph settings target strict required type).outcome = .ok declaration ↔
      ∃ shape, graph.classify settings type = .ok shape ∧
        (shape.declare target settings (!strict) required).outcome = .ok declaration := by
  simp only [propertyType, Declaration.settle_declare, Report.outcome_bind, Report.ofExcept,
    Report.mapError, Except.bind_eq_ok_iff, Except.mapError_eq_ok_iff]

/-! ### Imports -/

/-- The TypeScript type of a property imports what the parts of its shape are imported by. -/
theorem mem_imports_propertyType {type : TypeRef} {declaration : Declaration}
    (h : (propertyType graph settings .typescript strict required type).outcome = .ok declaration)
    (item : Import) :
    item ∈ declaration.imports ↔ ∃ shape, graph.classify settings type = .ok shape ∧
      ∃ part ∈ shape.parts, part.typeScriptImport? settings = some item := by
  obtain ⟨shape, hshape, hdeclaration⟩ := propertyType_eq_ok_iff.mp h
  rw [Shape.mem_imports_declare settings (!strict) item .typescript required shape hdeclaration,
    hshape]
  simp only [Except.ok.injEq, exists_eq_left']
  rfl

/-! ### Supported shapes -/

namespace Shape

mutual

/-- Nothing is substituted in a supported shape. -/
theorem substitute_of_supported (placeholder : String) (shape : Shape)
    (h : shape.unsupportedNames = []) : shape.substitute placeholder = shape := by
  cases shape with
  | nullable inner => rw [substitute, substitute_of_supported placeholder inner h]
  | array element => rw [substitute, substitute_of_supported placeholder element h]
  | collection element => rw [substitute, substitute_of_supported placeholder element h]
  | dictionary key value =>
    obtain ⟨hkey, hvalue⟩ := List.append_eq_nil_iff.mp h
    rw [substitute, substitute_of_supported placeholder key hkey,
      substitute_of_supported placeholder value hvalue]
  | container name arguments =>
    rw [substitute, substituteAll_of_supported placeholder arguments h]
  | unsupported displayName => cases h
  | primitive | globalEnum | domainEnum | entity | viewModel | parameter => rfl

/-- Nothing is substituted in supported shapes. -/
theorem substituteAll_of_supported (placeholder : String) (shapes : List Shape)
    (h : unsupportedNamesAll shapes = []) : substituteAll placeholder shapes = shapes := by
  cases shapes with
  | nil => rfl
  | cons shape rest =>
    obtain ⟨hshape, hrest⟩ := List.append_eq_nil_iff.mp h
    rw [substituteAll, substitute_of_supported placeholder shape hshape,
      substituteAll_of_supported placeholder rest hrest]

end

/-- A shape without unsupported parts is declared without a notice, strictly or not. -/
theorem declare_of_supported (target : Target) (settings : Settings) (required : Bool)
    {shape : Shape} (h : shape.unsupportedNames = []) :
    ∃ declaration, ∀ lenient,
      shape.declare target settings lenient required = ⟨[], .ok declaration⟩ := by
  obtain ⟨declaration, hlenient, hstrict⟩ := declare_agreeSaying target settings required shape
  rw [h] at hlenient
  rw [substitute_of_supported _ shape h] at hstrict
  refine ⟨declaration, fun lenient => ?_⟩
  cases lenient with
  | false => exact hstrict
  | true => exact hlenient

end Shape

/-- A type whose shape has no unsupported parts is declared whatever the policy. -/
theorem propertyType_of_supported (target : Target) (required : Bool) {type : TypeRef}
    {shape : Shape} (hshape : graph.classify settings type = .ok shape)
    (hsupported : shape.unsupportedNames = []) :
    ∃ declaration, ∀ strict,
      propertyType graph settings target strict required type = pure declaration := by
  obtain ⟨declaration, hdeclare⟩ := Shape.declare_of_supported target settings required hsupported
  refine ⟨declaration, fun strict => ?_⟩
  rw [propertyType_of_classify hshape, hdeclare]
  rfl

end TypeExport
