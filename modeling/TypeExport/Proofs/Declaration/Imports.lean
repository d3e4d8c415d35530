import TypeExport.Declaration.CSharp
import TypeExport.Proofs.Outcome
import TypeExport.Proofs.Shape.Parts
import Mathlib.Data.String.Basic

/-!
# Imports of a type

Merging lists of imports sorts them and keeps what is in them, but for the excluded names, and the
type of a shape imports what the parts of the shape are imported by.

* `Import.mem_merge` — what is in a merged list.
* `Import.Ascending`, `Import.ascending_merge` — merged lists are sorted and repeat nothing.
* `Shape.typeScriptImport?`, `Shape.cSharpImport?` — the import of a shape itself, whatever it is
  made of.
* `Shape.ImportsJust` — a report imports just what is needed, in order; with a lemma for each way in
  which a type is put together.
* `Shape.mem_imports_declare` — the imports of a type are those of the parts of its shape.
* `Shape.imports_exact` — for either target, the imports of a type are exactly those, in order.
-/

namespace TypeExport

/-! ### Merged imports -/

namespace Import

/-- An import that is inserted joins those that are there. -/
theorem mem_insert (item other : Import) (imports : List Import) :
    other ∈ insert item imports ↔ other = item ∨ other ∈ imports := by
  induction imports with
  | nil => simp [insert]
  | cons first rest ih =>
    unfold insert
    split
    · next heq => simp [heq]
    · split
      · simp
      · simp only [List.mem_cons, ih]
        exact or_left_comm

/-- The canonical list has the same imports. -/
theorem mem_canonical (item : Import) (imports : List Import) :
    item ∈ canonical imports ↔ item ∈ imports := by
  induction imports with
  | nil => rfl
  | cons first rest ih =>
    show item ∈ insert first (canonical rest) ↔ _
    rw [mem_insert, ih, List.mem_cons]

/-- An import is in a merged list if it is in one of the lists and its name is not excluded. -/
theorem mem_merge (item : Import) (groups : List (List Import)) (excluded : List String) :
    item ∈ merge groups excluded ↔ (∃ group ∈ groups, item ∈ group) ∧ item.name ∉ excluded := by
  rw [merge, mem_canonical, List.mem_filter, List.mem_flatten]
  simp

/-! ### The order of imports -/

/-- The first import has the smaller path, or the same path and the smaller name. -/
def Precedes (a b : Import) : Prop :=
  a.path < b.path ∨ a.path = b.path ∧ a.name < b.name

/-- The imports strictly increase, by path and then by name. -/
def Ascending (imports : List Import) : Prop :=
  imports.Pairwise Precedes

/-- The comparison decides whether an import precedes another. -/
theorem before_iff {a b : Import} : a.before b = true ↔ a.Precedes b := by
  simp [before, Precedes]

/-- What precedes a preceding import precedes. -/
theorem Precedes.trans {a b c : Import} (hab : a.Precedes b) (hbc : b.Precedes c) :
    a.Precedes c := by
  obtain hpath | ⟨hpath, hname⟩ := hab
  · obtain hpath' | ⟨hpath', -⟩ := hbc
    · exact .inl (String.lt_trans hpath hpath')
    · exact .inl (hpath' ▸ hpath)
  · obtain hpath' | ⟨hpath', hname'⟩ := hbc
    · exact .inl (hpath ▸ hpath')
    · exact .inr ⟨hpath.trans hpath', String.lt_trans hname hname'⟩

/-- Of two imports one comes first. -/
theorem precedes_or_precedes {a b : Import} (hne : a ≠ b) : a.Precedes b ∨ b.Precedes a := by
  obtain ⟨path, name⟩ := a
  obtain ⟨path', name'⟩ := b
  obtain hpath | rfl | hpath := lt_trichotomy path path'
  · exact .inl (.inl hpath)
  · obtain hname | rfl | hname := lt_trichotomy name name'
    · exact .inl (.inr ⟨rfl, hname⟩)
    · exact absurd rfl hne
    · exact .inr (.inr ⟨rfl, hname⟩)
  · exact .inr (.inl hpath)

/-- An import is inserted at its place in the order. -/
theorem ascending_insert (item : Import) {imports : List Import} (h : Ascending imports) :
    Ascending (insert item imports) := by
  induction imports with
  | nil => exact List.pairwise_singleton _ item
  | cons first rest ih =>
    obtain ⟨hfirst, hrest⟩ := List.pairwise_cons.mp h
    unfold insert
    split
    · exact h
    · next hne =>
      split
      · next hbefore =>
        have hitem := before_iff.mp hbefore
        refine List.pairwise_cons.mpr ⟨fun other hother => ?_, h⟩
        obtain rfl | hother := List.mem_cons.mp hother
        · exact hitem
        · exact hitem.trans (hfirst other hother)
      · next hbefore =>
        -- The item is inserted behind the first import, which it does not precede.
        have hitem := (precedes_or_precedes hne).resolve_left (mt before_iff.mpr hbefore)
        refine List.pairwise_cons.mpr ⟨fun other hother => ?_, ih hrest⟩
        obtain rfl | hother := (mem_insert item other rest).mp hother
        · exact hitem
        · exact hfirst other hother

/-- Merged imports are sorted and without repetition. -/
theorem ascending_merge (groups : List (List Import)) (excluded : List String) :
    Ascending (merge groups excluded) := by
  unfold merge canonical
  induction groups.flatten.filter fun item => !excluded.contains item.name with
  | nil => exact .nil
  | cons item rest ih => exact ascending_insert item ih

end Import

/-- A generic type imports what is its own and what its arguments import. -/
theorem Declaration.mem_imports_apply (item : Import) (name : String)
    (arguments : List Declaration) (own : List Import) :
    item ∈ (apply name arguments own).imports ↔
      item ∈ own ∨ ∃ argument ∈ arguments, item ∈ argument.imports := by
  simp only [apply, Import.mem_merge, List.exists_mem_cons_iff, List.not_mem_nil, not_false_eq_true,
    and_true, List.mem_map, exists_exists_and_eq_and]

/-! ### The imports of a shape -/

namespace Shape

/-- The import that the TypeScript type of a shape needs for the shape itself. -/
def typeScriptImport? (settings : Settings) : Shape → Option Import
  | primitive .identifier _ => some ⟨settings.modules.identifier, "Guid"⟩
  | container name _ => some ⟨settings.modules.box, name⟩
  | globalEnum name _ path _ | domainEnum name _ _ path _ =>
    some ⟨settings.modules.enumsRoot ++ "/" ++ path, name⟩
  | entity _ _ _ => some ⟨settings.modules.referenceBag, settings.referenceBag⟩
  | viewModel name _ path _ => some ⟨settings.modules.viewModelsRoot ++ "/" ++ path, name⟩
  | primitive _ _ | nullable _ | array _ | collection _ | dictionary _ _ | parameter _
  | unsupported _ => none

/-- The import that the C# type of a shape needs for the shape itself. -/
def cSharpImport? (settings : Settings) : Shape → Option Import
  | primitive .identifier typeName | primitive .timestamp typeName => some ⟨"System", typeName⟩
  | collection _ => some ⟨collectionsSpace, "List"⟩
  | dictionary _ _ => some ⟨collectionsSpace, "Dictionary"⟩
  | container name _ => some ⟨settings.utilitySpace, name⟩
  | entity _ _ _ => some ⟨settings.utilitySpace, settings.referenceBag⟩
  | globalEnum name space _ _ | domainEnum name space _ _ _ | viewModel name space _ _ =>
    some ⟨space, name⟩
  | primitive _ _ | nullable _ | array _ | parameter _ | unsupported _ => none

/-- The mark of an optional value needs no import. -/
@[simp] theorem imports_markOptional (optional : Bool) (declaration : Declaration) :
    (markOptional optional declaration).imports = declaration.imports := by
  cases optional <;> rfl

/-! ### Needed imports -/

/-- What is declared imports just what is needed, in the order of imports. -/
def ImportsJust (needed : List Import) (report : Report UnsupportedType Declaration) : Prop :=
  ∀ declaration, report.outcome = .ok declaration →
    Import.Ascending declaration.imports ∧ ∀ item, item ∈ declaration.imports ↔ item ∈ needed

/-- The arguments that are declared import just what is needed, taken together. -/
def ImportsJustAll (needed : List Import) (report : Report UnsupportedType (List Declaration)) :
    Prop :=
  ∀ declarations, report.outcome = .ok declarations →
    ∀ item, (∃ declaration ∈ declarations, item ∈ declaration.imports) ↔ item ∈ needed

section

variable {needed needed' : List Import} {step : Report UnsupportedType Declaration}
  {steps : Report UnsupportedType (List Declaration)}

/-- A name of the language needs no import. -/
theorem importsJust_plain (text : String) : ImportsJust [] (pure ⟨text, []⟩) := by
  intro declaration hdeclaration
  obtain rfl := Except.ok.inj hdeclaration
  exact ⟨.nil, fun _ => Iff.rfl⟩

/-- A name that is brought into scope needs the import that does so. -/
theorem importsJust_imported (name path : String) :
    ImportsJust [⟨path, name⟩] (pure (.imported name path)) := by
  intro declaration hdeclaration
  obtain rfl := Except.ok.inj hdeclaration
  exact ⟨List.pairwise_singleton _ _, fun _ => Iff.rfl⟩

/-- What stands for an unsupported type needs no import, if anything stands for it. -/
theorem importsJust_unsupported (target : Target) (lenient : Bool) (displayName : String) :
    ImportsJust [] (Declaration.unsupported target lenient displayName) := by
  intro declaration hdeclaration
  cases lenient with
  | false => cases hdeclaration
  | true =>
    obtain rfl := Except.ok.inj hdeclaration
    exact ⟨.nil, fun _ => Iff.rfl⟩

/-- A generic name needs its own import and what its arguments need. -/
theorem importsJust_apply {arguments : List Declaration} (name : String) (own : List Import)
    (h : ∀ item, (∃ argument ∈ arguments, item ∈ argument.imports) ↔ item ∈ needed) :
    ImportsJust (own ++ needed) (pure (.apply name arguments own)) := by
  intro declaration hdeclaration
  obtain rfl := Except.ok.inj hdeclaration
  refine ⟨Import.ascending_merge _ _, fun item => ?_⟩
  rw [Declaration.mem_imports_apply, h, List.mem_append]

/-- A declaration with the imports of another one imports what that one does. -/
theorem ImportsJust.map (h : ImportsJust needed step) {f : Declaration → Declaration}
    (hf : ∀ declaration, (f declaration).imports = declaration.imports) :
    ImportsJust needed (step >>= fun declaration => pure (f declaration)) := by
  intro declaration hdeclaration
  rw [Report.outcome_bind, Except.bind_eq_ok_iff] at hdeclaration
  obtain ⟨value, hvalue, hresult⟩ := hdeclaration
  obtain rfl := Except.ok.inj hresult
  rw [hf]
  exact h value hvalue

/-- A step may use what the declaration before it needs. -/
theorem ImportsJust.bind (h : ImportsJust needed step)
    {next : Declaration → Report UnsupportedType Declaration}
    (hnext : ∀ declaration, (∀ item, item ∈ declaration.imports ↔ item ∈ needed) →
      ImportsJust needed' (next declaration)) :
    ImportsJust needed' (step >>= next) := by
  intro declaration hdeclaration
  rw [Report.outcome_bind, Except.bind_eq_ok_iff] at hdeclaration
  obtain ⟨value, hvalue, hresult⟩ := hdeclaration
  exact hnext value (h value hvalue).2 declaration hresult

/-- A generic name that is applied to a list of arguments needs what they need. -/
theorem ImportsJustAll.apply (h : ImportsJustAll needed steps) (name : String)
    (own : List Import) :
    ImportsJust (own ++ needed) (steps >>= fun arguments => pure (.apply name arguments own)) := by
  intro declaration hdeclaration
  rw [Report.outcome_bind, Except.bind_eq_ok_iff] at hdeclaration
  obtain ⟨arguments, harguments, hresult⟩ := hdeclaration
  exact importsJust_apply name own (h arguments harguments) declaration hresult

/-- Without arguments nothing is needed. -/
theorem importsJustAll_nil : ImportsJustAll [] (pure []) := by
  intro declarations hdeclarations item
  obtain rfl := Except.ok.inj hdeclarations
  simp

/-- Arguments need what the first one and what the others need. -/
theorem ImportsJust.cons (h : ImportsJust needed step) (hrest : ImportsJustAll needed' steps)
    {f : Declaration → Declaration}
    (hf : ∀ declaration, (f declaration).imports = declaration.imports) :
    ImportsJustAll (needed ++ needed')
      (step >>= fun first => steps >>= fun others => pure (f first :: others)) := by
  intro declarations hdeclarations item
  simp only [Report.outcome_bind, Except.bind_eq_ok_iff] at hdeclarations
  obtain ⟨first, hfirst, others, hothers, hresult⟩ := hdeclarations
  obtain rfl := Except.ok.inj hresult
  rw [List.exists_mem_cons_iff, hf, (h first hfirst).2, hrest others hothers, List.mem_append]

end

/-! ### The imports of a type -/

variable (settings : Settings) (lenient : Bool)

mutual

/-- A TypeScript type imports what the parts of its shape need. -/
theorem importsJust_bareTypeScript (shape : Shape) :
    ImportsJust (shape.parts.filterMap (typeScriptImport? settings))
      (bareTypeScript settings lenient shape) := by
  cases shape with
  | primitive kind typeName =>
    -- Of the primitive types only identifiers are imported.
    cases kind
    case identifier => exact importsJust_imported _ _
    all_goals exact importsJust_plain _
  | nullable inner => exact importsJust_bareTypeScript inner
  | array element | collection element =>
    -- Lists are written with brackets and import nothing of their own.
    exact (importsJust_bareTypeScript element).map fun inner => imports_markOptional _ inner
  | dictionary key value =>
    refine (importsJust_bareTypeScript key).bind fun keyType hkey => ?_
    refine (importsJust_bareTypeScript value).bind fun valueType hvalue => ?_
    refine importsJust_apply _ [] fun item => ?_
    rw [List.filterMap_append, List.mem_append, ← hkey, ← hvalue]
    simp
  | container name arguments => exact (importsJust_argumentTypeScripts arguments).apply _ _
  | unsupported displayName => exact importsJust_unsupported .typescript lenient displayName
  | globalEnum | domainEnum | entity | viewModel => exact importsJust_imported _ _
  | parameter => exact importsJust_plain _

/-- TypeScript arguments import what the parts of their shapes need. -/
theorem importsJust_argumentTypeScripts (shapes : List Shape) :
    ImportsJustAll ((partsAll shapes).filterMap (typeScriptImport? settings))
      (argumentTypeScripts settings lenient shapes) := by
  cases shapes with
  | nil => exact importsJustAll_nil
  | cons shape rest =>
    rw [partsAll, List.filterMap_append]
    exact (importsJust_bareTypeScript shape).cons (importsJust_argumentTypeScripts rest)
      (imports_markOptional _)

end

mutual

/-- A C# type imports what the parts of its shape need. -/
theorem importsJust_cSharp (shape : Shape) :
    ImportsJust (shape.parts.filterMap (cSharpImport? settings))
      (cSharp settings lenient shape) := by
  cases shape with
  | primitive kind typeName =>
    -- Identifiers and times come from the namespace of the system.
    cases kind
    case identifier | timestamp => exact importsJust_imported _ _
    all_goals exact importsJust_plain _
  | nullable inner | array inner => exact (importsJust_cSharp inner).map fun _ => rfl
  | collection element =>
    refine (importsJust_cSharp element).bind fun inner hinner => ?_
    refine importsJust_apply _ [⟨collectionsSpace, "List"⟩] fun item => ?_
    rw [← hinner]
    simp
  | dictionary key value =>
    refine (importsJust_cSharp key).bind fun keyType hkey => ?_
    refine (importsJust_cSharp value).bind fun valueType hvalue => ?_
    refine importsJust_apply _ [⟨collectionsSpace, "Dictionary"⟩] fun item => ?_
    rw [List.filterMap_append, List.mem_append, ← hkey, ← hvalue]
    simp
  | container name arguments => exact (importsJust_argumentCSharps arguments).apply _ _
  | unsupported displayName => exact importsJust_unsupported .csharp lenient displayName
  | globalEnum | domainEnum | entity | viewModel => exact importsJust_imported _ _
  | parameter => exact importsJust_plain _

/-- C# arguments import what the parts of their shapes need. -/
theorem importsJust_argumentCSharps (shapes : List Shape) :
    ImportsJustAll ((partsAll shapes).filterMap (cSharpImport? settings))
      (argumentCSharps settings lenient shapes) := by
  cases shapes with
  | nil => exact importsJustAll_nil
  | cons shape rest =>
    rw [partsAll, List.filterMap_append]
    exact (importsJust_cSharp shape).cons (f := id) (importsJust_argumentCSharps rest) fun _ => rfl

end

/-! ### Either target -/

/-- The import that the type of a shape needs for the shape itself. -/
def import? (target : Target) (settings : Settings) (shape : Shape) : Option Import :=
  match target with
  | .typescript => shape.typeScriptImport? settings
  | .csharp => shape.cSharpImport? settings

/-- The type of a shape imports what its parts need, whether or not the value is required. -/
theorem importsJust_declare (target : Target) (required : Bool) (shape : Shape) :
    ImportsJust (shape.parts.filterMap (import? target settings))
      (shape.declare target settings lenient required) := by
  cases target with
  | typescript =>
    exact (importsJust_bareTypeScript settings lenient shape).map (imports_markOptional _)
  | csharp => exact importsJust_cSharp settings lenient shape

/-- **Imports of a type.** The type of a shape imports what its parts need, whatever is done about
unsupported parts. -/
theorem mem_imports_declare (item : Import) (target : Target) (required : Bool) (shape : Shape)
    {declaration : Declaration}
    (h : (shape.declare target settings lenient required).outcome = .ok declaration) :
    item ∈ declaration.imports ↔
      ∃ part ∈ shape.parts, part.import? target settings = some item := by
  rw [(importsJust_declare settings lenient target required shape declaration h).2 item,
    List.mem_filterMap]

/-- The imports of a report, if it succeeds. -/
def importsOf (report : Report UnsupportedType Declaration) :
    Except UnsupportedType (List Import) :=
  report.outcome.map (·.imports)

/-- Whether a value is required does not matter to the imports. -/
theorem importsOf_typeScript (required : Bool) (shape : Shape) :
    importsOf (typeScript settings lenient required shape)
      = importsOf (bareTypeScript settings lenient shape) := by
  unfold importsOf typeScript
  rw [Report.outcome_bind]
  cases (bareTypeScript settings lenient shape).outcome with
  | error error => rfl
  | ok bare => exact congrArg Except.ok (imports_markOptional _ bare)

/-- Whether a property is required changes no import. -/
theorem importsOf_declare_required (target : Target) (required required' : Bool) (shape : Shape) :
    importsOf (shape.declare target settings lenient required)
      = importsOf (shape.declare target settings lenient required') := by
  cases target with
  | typescript => exact (importsOf_typeScript ..).trans (importsOf_typeScript ..).symm
  | csharp => rfl

/-- A nullable form needs the imports of its type. -/
theorem importsOf_declare_nullable (target : Target) (required : Bool) (shape : Shape) :
    importsOf ((nullable shape).declare target settings lenient required)
      = importsOf (shape.declare target settings lenient required) := by
  cases target with
  | typescript =>
    unfold declare
    dsimp only
    rw [importsOf_typeScript, importsOf_typeScript, bareTypeScript]
  | csharp =>
    unfold importsOf declare
    rw [cSharp, Report.outcome_bind]
    cases (cSharp settings lenient shape).outcome <;> rfl

/-- **Exact imports.**  The imports of a type strictly increase, by path and then by name, and they
are those that the parts of its shape need, one for each part that needs any.  They do not depend on
whether a value is required, and the nullable form of a type has the imports of the type. -/
theorem imports_exact (target : Target) (settings : Settings) (lenient required : Bool)
    (shape : Shape) :
    (∀ declaration, (shape.declare target settings lenient required).outcome = .ok declaration →
      Import.Ascending declaration.imports ∧
        ∀ item, item ∈ declaration.imports ↔
          ∃ part ∈ shape.parts, part.import? target settings = some item) ∧
    (∀ required', importsOf (shape.declare target settings lenient required)
      = importsOf (shape.declare target settings lenient required')) ∧
    importsOf ((nullable shape).declare target settings lenient required)
      = importsOf (shape.declare target settings lenient required) := by
  refine ⟨fun declaration h => ?_,
    fun required' => importsOf_declare_required settings lenient target required required' shape,
    importsOf_declare_nullable settings lenient target required shape⟩
  exact ⟨(importsJust_declare settings lenient target required shape declaration h).1,
    fun item => mem_imports_declare settings lenient item target required shape h⟩

/-- Boxes of lists of references by identifier. -/
def boxesById : Shape :=
  .dictionary (.primitive .identifier "Guid")
    (.container "ValidPropertiesBox" [.nullable (.collection (.entity "Person" "Rock.Model" {}))])

/-- The types of the utility namespace come first, the collections last. -/
theorem imports_exact_boxesById :
    (boxesById.declare .csharp {} false false).outcome = .ok {
      text := "Dictionary<Guid, ValidPropertiesBox<List<ListItemBag>?>>"
      imports := [⟨"Rock.ViewModels.Utility", "ListItemBag"⟩,
        ⟨"Rock.ViewModels.Utility", "ValidPropertiesBox"⟩, ⟨"System", "Guid"⟩,
        ⟨"System.Collections.Generic", "Dictionary"⟩, ⟨"System.Collections.Generic", "List"⟩] } ∧
    Import.Ascending [⟨"Rock.ViewModels.Utility", "ListItemBag"⟩,
      ⟨"Rock.ViewModels.Utility", "ValidPropertiesBox"⟩, ⟨"System", "Guid"⟩,
      ⟨"System.Collections.Generic", "Dictionary"⟩, ⟨"System.Collections.Generic", "List"⟩] ∧
    ∃ part ∈ boxesById.parts,
      part.import? .csharp {} = some ⟨"Rock.ViewModels.Utility", "ListItemBag"⟩ := by
  have houtcome : (boxesById.declare .csharp {} false false).outcome = .ok {
      text := "Dictionary<Guid, ValidPropertiesBox<List<ListItemBag>?>>"
      imports := [⟨"Rock.ViewModels.Utility", "ListItemBag"⟩,
        ⟨"Rock.ViewModels.Utility", "ValidPropertiesBox"⟩, ⟨"System", "Guid"⟩,
        ⟨"System.Collections.Generic", "Dictionary"⟩, ⟨"System.Collections.Generic", "List"⟩] } := by
    decide +kernel
  obtain ⟨hascending, hparts⟩ := (imports_exact .csharp {} false false boxesById).1 _ houtcome
  exact ⟨houtcome, hascending, (hparts _).mp List.mem_cons_self⟩

end Shape

end TypeExport
