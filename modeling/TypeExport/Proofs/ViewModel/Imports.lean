import TypeExport.Proofs.Declaration.PropertyType
import TypeExport.Proofs.Name.Basic

/-!
# Imports of a unit

A unit of view models imports what the types of its properties need.  Of that, each class leaves
out the names of the types of the unit that its properties refer to.

* `TypeGraph.Needs`, `TypeGraph.RefersTo` — what the properties of a class need, and which types of
  a unit they refer to.
* `mem_imports_viewModel`, `mem_imports_viewModels` — what a class and a unit import, exactly.
* `Shape.HasFixedName` — the shapes whose TypeScript name is none of the type's own.
* `origin_of_declared_import` — where an import of a type that the unit declares comes from.

References are recognised by identity, but they are left out by name.  A unit therefore
loses the import of another type with the name of a type that it refers to, and keeps an import of
its own type that does not stem from a reference to that type.
-/

namespace TypeExport

open Name (withoutArity)

/-! ### References to types of the unit -/

namespace TypeTree

variable (identities : List Identity) (name : String)

/-- The name of a declared type is that without the arity, and other types have none. -/
theorem mem_nameIfDeclared (tree : TypeTree) :
    name ∈ tree.nameIfDeclared identities ↔
      tree.identity ∈ identities ∧ withoutArity tree.facts.name = name := by
  have hany : identities.any tree.identity.same = true ↔ tree.identity ∈ identities := by
    simp [Identity.same_iff_eq]
  by_cases h : tree.identity ∈ identities <;> simp [nameIfDeclared, hany, h, eq_comm]

mutual

/-- The names of the parts that have one of the identities. -/
theorem mem_declaredReferences (tree : TypeTree) :
    name ∈ tree.declaredReferences identities ↔
      ∃ part ∈ tree.parts, part.identity ∈ identities ∧ withoutArity part.facts.name = name := by
  cases tree with
  | type facts arguments =>
    simp only [declaredReferences, parts, List.mem_append, mem_nameIfDeclared,
      mem_allDeclaredReferences arguments, List.exists_mem_cons_iff]
  | withElement facts element arguments =>
    simp only [declaredReferences, parts, List.mem_append, mem_nameIfDeclared, or_assoc,
      mem_declaredReferences element, mem_allDeclaredReferences arguments,
      List.exists_mem_cons_iff, or_and_right, exists_or]
  | repeated facts => simp [declaredReferences, parts]

/-- The declared names in several trees are those of their parts that are declared. -/
theorem mem_allDeclaredReferences (trees : List TypeTree) :
    name ∈ allDeclaredReferences identities trees ↔
      ∃ part ∈ partsAll trees,
        part.identity ∈ identities ∧ withoutArity part.facts.name = name := by
  cases trees with
  | nil => simp [allDeclaredReferences, partsAll]
  | cons tree rest =>
    simp only [allDeclaredReferences, partsAll, List.mem_append, mem_declaredReferences tree,
      mem_allDeclaredReferences rest, or_and_right, exists_or]

end

end TypeTree

/-! ### Generated units -/

variable {graph : TypeGraph} {settings : Settings} {documentation : Documentation} {strict : Bool}

/-- A line is generated exactly if the type of the property is declared. -/
theorem exists_viewModelProperty_iff (documentation : Documentation) (ownerName : String)
    {property : Property} :
    (∃ line, (viewModelProperty graph settings documentation strict ownerName property).outcome
      = .ok line) ↔
      ∃ declaration, (propertyType graph settings .typescript strict (property.isRequired graph)
        property.type).outcome = .ok declaration := by
  simp only [viewModelProperty, Report.outcome_bind, Except.bind_eq_ok_iff]
  constructor
  · rintro ⟨line, type, htype, -⟩
    exact ⟨type, htype⟩
  · rintro ⟨type, htype⟩
    exact ⟨_, type, htype, rfl⟩

/-- A class is generated exactly if the types of its properties are declared. -/
theorem exists_viewModel_iff (documentation : Documentation) (unit : List TypeRef)
    {type : TypeRef} :
    (∃ declaration, (viewModel graph settings documentation strict unit type).outcome
      = .ok declaration) ↔
      ∀ property ∈ graph.properties type, ∃ declaration,
        (propertyType graph settings .typescript strict (property.isRequired graph)
          property.type).outcome = .ok declaration := by
  simp only [viewModel, Report.outcome_bind, Report.outcome_mapM, Except.bind_eq_ok_iff,
    ← exists_viewModelProperty_iff documentation (graph.tree type).facts.fullName]
  -- The lines are generated in the order of the names.
  rw [← Name.forall_mem_sortByName (fun property : Property => property.name),
    ← Except.exists_mapM_eq_ok_iff]
  constructor
  · rintro ⟨declaration, lines, hlines, -⟩
    exact ⟨lines, hlines⟩
  · rintro ⟨lines, hlines⟩
    exact ⟨_, lines, hlines, (), rfl, rfl⟩

/-- A unit is generated exactly if the types of the properties of its classes are declared. -/
theorem exists_viewModels_iff {types : List TypeRef} :
    (∃ declaration,
      (viewModels graph settings documentation strict types).outcome = .ok declaration) ↔
      ∀ type ∈ types, ∀ property ∈ graph.properties type, ∃ declaration,
        (propertyType graph settings .typescript strict (property.isRequired graph)
          property.type).outcome = .ok declaration := by
  simp only [viewModels, Report.outcome_bind, Report.outcome_mapM, Except.bind_eq_ok_iff,
    ← exists_viewModel_iff documentation types]
  rw [← Except.exists_mapM_eq_ok_iff]
  constructor
  · rintro ⟨declaration, declarations, hdeclarations, -⟩
    exact ⟨declarations, hdeclarations⟩
  · rintro ⟨declarations, hdeclarations⟩
    exact ⟨_, declarations, hdeclarations, rfl⟩

/-! ### The imports of a class -/

namespace TypeGraph

/-- The TypeScript type of a property of the class needs the import. -/
def Needs (graph : TypeGraph) (settings : Settings) (type : TypeRef) (item : Import) : Prop :=
  ∃ property ∈ graph.properties type, ∃ shape, graph.classify settings property.type = .ok shape ∧
    ∃ part ∈ shape.parts, part.typeScriptImport? settings = some item

/-- The type of a property of the class has a part that is one of the types of the unit and has the
name. -/
def RefersTo (graph : TypeGraph) (unit : List TypeRef) (type : TypeRef) (name : String) : Prop :=
  ∃ property ∈ graph.properties type, ∃ part ∈ (graph.tree property.type).parts,
    part.identity ∈ unit.map (fun other => (graph.tree other).identity) ∧
      withoutArity part.facts.name = name

/-- The type is a view model and the import is its own. -/
def ImportedBy (graph : TypeGraph) (settings : Settings) (type : TypeRef) (item : Import) : Prop :=
  ∃ name space path metadata,
    graph.classify settings type = .ok (.viewModel name space path metadata) ∧
      (Shape.viewModel name space path metadata).typeScriptImport? settings = some item

end TypeGraph

/-- A property imports what the parts of its shape need. -/
theorem mem_imports_viewModelProperty {ownerName : String} {property : Property}
    {line : Declaration}
    (h : (viewModelProperty graph settings documentation strict ownerName property).outcome
      = .ok line) (item : Import) :
    item ∈ line.imports ↔ ∃ shape, graph.classify settings property.type = .ok shape ∧
      ∃ part ∈ shape.parts, part.typeScriptImport? settings = some item := by
  simp only [viewModelProperty, Report.outcome_bind, Except.bind_eq_ok_iff] at h
  obtain ⟨type, htype, hline⟩ := h
  obtain rfl := Except.ok.inj hline
  exact mem_imports_propertyType htype item

/-- A class imports what its properties need, but for the names of the types of the unit that they
refer to. -/
theorem mem_imports_viewModel {unit : List TypeRef} {type : TypeRef} {declaration : Declaration}
    (h : (viewModel graph settings documentation strict unit type).outcome = .ok declaration)
    (item : Import) :
    item ∈ declaration.imports ↔
      graph.Needs settings type item ∧ ¬ graph.RefersTo (type :: unit) type item.name := by
  simp only [viewModel, Report.outcome_bind, Report.outcome_mapM, Except.bind_eq_ok_iff] at h
  obtain ⟨lines, hlines, -, -, hdeclaration⟩ := h
  obtain rfl := Except.ok.inj hdeclaration
  have hneeds :
      (∃ group ∈ lines.map (·.imports), item ∈ group) ↔ graph.Needs settings type item := by
    simp only [List.mem_map, exists_exists_and_eq_and, Except.mem_of_mapM_eq_ok hlines,
      Name.mem_sortByName, TypeGraph.Needs]
    constructor
    · rintro ⟨line, ⟨property, hproperty, hline⟩, hitem⟩
      exact ⟨property, hproperty, (mem_imports_viewModelProperty hline item).mp hitem⟩
    · rintro ⟨property, hproperty, hitem⟩
      obtain ⟨line, hline⟩ := Except.exists_mapM_eq_ok_iff.mp ⟨lines, hlines⟩ property
        ((Name.mem_sortByName _ _ _).mpr hproperty)
      exact ⟨line, ⟨property, hproperty, hline⟩,
        (mem_imports_viewModelProperty hline item).mpr hitem⟩
  -- Merging leaves out the names that the unit declares itself.
  rw [Import.mem_merge, hneeds]
  simp only [List.mem_flatMap, Name.mem_sortByName, TypeTree.mem_declaredReferences,
    TypeGraph.RefersTo, List.map_cons]

/-! ### The imports of a unit -/

/-- A class is one of the types of its unit already. -/
theorem TypeGraph.refersTo_cons_of_mem {unit : List TypeRef} {type : TypeRef} (h : type ∈ unit)
    (name : String) : graph.RefersTo (type :: unit) type name ↔ graph.RefersTo unit type name := by
  have hidentity : (graph.tree type).identity ∈ unit.map fun other => (graph.tree other).identity :=
    List.mem_map_of_mem h
  have hmem (identity : Identity) :
      identity ∈ (type :: unit).map (fun other => (graph.tree other).identity) ↔
        identity ∈ unit.map fun other => (graph.tree other).identity := by
    rw [List.map_cons, List.mem_cons]
    exact or_iff_right_of_imp fun heq => heq ▸ hidentity
  simp only [RefersTo, hmem]

/-- **What a unit imports.** An import stands in a unit exactly if the properties of one of its
classes need it and do not refer to a type of the unit with the name that is imported. -/
theorem mem_imports_viewModels {types : List TypeRef} {declaration : Declaration}
    (h : (viewModels graph settings documentation strict types).outcome = .ok declaration)
    (item : Import) :
    item ∈ declaration.imports ↔
      ∃ type ∈ types, graph.Needs settings type item ∧ ¬ graph.RefersTo types type item.name := by
  simp only [viewModels, Report.outcome_bind, Report.outcome_mapM, Except.bind_eq_ok_iff] at h
  obtain ⟨declarations, hdeclarations, hdeclaration⟩ := h
  obtain rfl := Except.ok.inj hdeclaration
  -- The unit leaves out nothing more than each of its classes has left out.
  rw [Import.mem_merge]
  simp only [List.mem_map, exists_exists_and_eq_and, Except.mem_of_mapM_eq_ok hdeclarations,
    List.not_mem_nil, not_false_eq_true, and_true]
  constructor
  · rintro ⟨part, ⟨type, htype, hpart⟩, hitem⟩
    rw [mem_imports_viewModel hpart, TypeGraph.refersTo_cons_of_mem htype] at hitem
    exact ⟨type, htype, hitem⟩
  · rintro ⟨type, htype, hitem⟩
    obtain ⟨part, hpart⟩ :=
      Except.exists_mapM_eq_ok_iff.mp ⟨declarations, hdeclarations⟩ type htype
    rw [← TypeGraph.refersTo_cons_of_mem htype, ← mem_imports_viewModel hpart] at hitem
    exact ⟨part, ⟨type, htype, hpart⟩, hitem⟩

/-- **Lost imports.** A unit lacks an import exactly if each of its classes that need it refers to a
type of the unit with the name that is imported. -/
theorem import_lost_iff {types : List TypeRef} {declaration : Declaration}
    (h : (viewModels graph settings documentation strict types).outcome = .ok declaration)
    (item : Import) :
    item ∉ declaration.imports ↔
      ∀ type ∈ types, graph.Needs settings type item → graph.RefersTo types type item.name := by
  simp only [mem_imports_viewModels h, not_exists, not_and, not_not]

/-- A bag that refers to itself and to a bag of the same name in another namespace. -/
def groupBags : TypeGraph where
  entries := [
    { facts := { name := "GroupBag", space? := some "Rock.ViewModels.Crm" }
      properties := [
        { name := "Parent", type := .declared 0 }, { name := "Legacy", type := .declared 1 }] },
    { facts := { name := "GroupBag", space? := some "Rock.ViewModels.Core" } }]

/-- The import of the bag in the other namespace. -/
def otherGroupBag : Import :=
  ⟨"@Obsidian/ViewModels/Core/groupBag", "GroupBag"⟩

/-- The bag whose properties are two bags of one name is generated. -/
theorem exists_viewModels_groupBags :
    ∃ declaration, (viewModels groupBags {} {} true [.declared 0]).outcome = .ok declaration := by
  rw [exists_viewModels_iff]
  simp only [List.mem_singleton, forall_eq, groupBags, TypeGraph.properties, TypeGraph.entry?,
    List.getElem?_cons_zero, Option.elim_some, List.forall_mem_cons]
  exact ⟨⟨_, rfl⟩, _, rfl⟩

/-- The bag needs the other one of its name. -/
theorem needs_otherGroupBag : groupBags.Needs {} (.declared 0) otherGroupBag :=
  ⟨_, List.mem_cons_of_mem _ (List.mem_singleton_self _), _, rfl, _, List.mem_singleton_self _, rfl⟩

/-- The bag refers to itself, too. -/
theorem refersTo_groupBag : groupBags.RefersTo [.declared 0] (.declared 0) "GroupBag" :=
  ⟨_, List.mem_cons_self, _, List.mem_singleton_self _, List.mem_singleton_self _, rfl⟩

/-- The import of the other bag is lost exactly if the bag that needs it refers to itself. -/
theorem import_lost_groupBags :
    ∃ declaration, (viewModels groupBags {} {} true [.declared 0]).outcome = .ok declaration ∧
      (otherGroupBag ∉ declaration.imports ↔
        ∀ type ∈ [TypeRef.declared 0], groupBags.Needs {} type otherGroupBag →
          groupBags.RefersTo [.declared 0] type otherGroupBag.name) := by
  obtain ⟨declaration, h⟩ := exists_viewModels_groupBags
  exact ⟨declaration, h, import_lost_iff h otherGroupBag⟩

/-- The bag of the other namespace is another type and has another module, and it is not imported
although it is needed. -/
theorem groupBags_lack_import :
    ∃ declaration, (viewModels groupBags {} {} true [.declared 0]).outcome = .ok declaration ∧
      groupBags.Needs {} (.declared 0) otherGroupBag ∧
      (groupBags.tree (.declared 1)).identity ≠ (groupBags.tree (.declared 0)).identity ∧
      ¬ groupBags.ImportedBy {} (.declared 0) otherGroupBag ∧
      otherGroupBag ∉ declaration.imports := by
  obtain ⟨declaration, h⟩ := exists_viewModels_groupBags
  refine ⟨declaration, h, needs_otherGroupBag, ?_, ?_, ?_⟩
  · rw [Ne, ← Identity.same_iff_eq]
    decide
  -- The own import of the bag leads to another module.
  · rintro ⟨name, space, path, metadata, hshape, himport⟩
    obtain ⟨rfl, rfl, rfl, rfl⟩ := Shape.viewModel.inj (Except.ok.inj hshape)
    revert himport
    decide
  · rw [mem_imports_viewModels h]
    rintro ⟨type, htype, -, hrefers⟩
    obtain rfl := List.mem_singleton.mp htype
    exact hrefers refersTo_groupBag

/-! ### Imports of declared types -/

namespace Shape

/-- The TypeScript type of the shape has a name that the settings give: that of the reference bag
or that of the box. -/
def HasFixedName : Shape → Prop
  | entity _ _ _ | container _ _ => True
  | _ => False

/-- The name of the type, where its TypeScript type has the same name. -/
def ownName? : Shape → Option String
  | globalEnum name _ _ _ | domainEnum name _ _ _ _ | viewModel name _ _ _ => some name
  | _ => none

/-- What is imported is the identifier type, a name that the settings give, or the type itself. -/
theorem name_of_typeScriptImport {shape : Shape} {item : Import}
    (h : shape.typeScriptImport? settings = some item) :
    item.name = "Guid" ∨ shape.HasFixedName ∨ shape.ownName? = some item.name := by
  -- Every kind of shape that imports anything is rendered under one of the three names.
  cases shape with
  | primitive kind typeName =>
    cases kind with
    | identifier =>
      obtain rfl := Option.some.inj h
      exact .inl rfl
    | boolean | number | string | timestamp => cases h
  | entity | container => exact .inr (.inl trivial)
  | globalEnum | domainEnum | viewModel =>
    obtain rfl := Option.some.inj h
    exact .inr (.inr rfl)
  | nullable | array | collection | dictionary | parameter | unsupported => cases h

end Shape

namespace TypeTree

variable {tree : TypeTree} {shape : Shape} {name : String}

/-- A shape with a name of its own has the name of the type. -/
theorem name_of_classify (h : tree.classify settings = .ok shape)
    (hname : shape.ownName? = some name) : tree.facts.name = name := by
  cases classified h with
  | plain _ _ _ hplain => cases hplain <;> first | exact Option.some.inj hname | cases hname
  | _ => cases hname

/-- A type that is taken as a view model is named like one. -/
theorem isTransferName_of_classify {space path : String} {metadata : Metadata}
    (h : tree.classify settings = .ok (.viewModel name space path metadata)) :
    isTransferName name := by
  cases classified h with
  | plain _ _ _ hplain =>
    cases hplain with
    | viewModel hname => exact hname

end TypeTree

/-- **Imports of declared types.** Where a unit imports one of its own types, the import is that of
a part of a property's type which is rendered under a name that the settings give, or which is none
of the types of the unit, or whose name has an arity. -/
theorem origin_of_declared_import {types : List TypeRef} {declaration : Declaration}
    (h : (viewModels graph settings documentation strict types).outcome = .ok declaration)
    {type : TypeRef} {item : Import} (hitem : graph.ImportedBy settings type item)
    (himported : item ∈ declaration.imports) :
    ∃ owner ∈ types, ∃ property ∈ graph.properties owner,
      ∃ part ∈ (graph.tree property.type).parts, ∃ shape, part.classify settings = .ok shape ∧
        shape.typeScriptImport? settings = some item ∧
        (shape.HasFixedName ∨
          part.identity ∉ types.map (fun other => (graph.tree other).identity) ∨
          withoutArity item.name ≠ item.name) := by
  obtain ⟨name, space, path, metadata, hviewModel, hviewImport⟩ := hitem
  have hname : isTransferName name := TypeTree.isTransferName_of_classify hviewModel
  obtain rfl := Option.some.inj hviewImport
  obtain ⟨owner, howner, ⟨property, hproperty, whole, hwhole, shape, hshape, himport⟩, hrefers⟩ :=
    (mem_imports_viewModels h _).mp himported
  obtain ⟨part, hpart, hclassify⟩ := TypeTree.exists_part_of_classify _ hwhole hshape
  refine ⟨owner, howner, property, hproperty, part, hpart, shape, hclassify, himport, ?_⟩
  obtain rfl | hfixed | hown := Shape.name_of_typeScriptImport himport
  · exact absurd hname (by decide)
  · exact .inl hfixed
  · -- A reference to a type of the unit would have removed the import.
    refine .inr (not_and_or.mp ?_)
    rintro ⟨hidentity, harity⟩
    refine hrefers ⟨property, hproperty, part, hpart, hidentity, ?_⟩
    rw [TypeTree.name_of_classify hclassify hown, harity]

/-- The bag that stands for references, with a property whose type is an entity. -/
def referenceBag : TypeGraph where
  entries := [
    { facts := { name := "ListItemBag", space? := some "Rock.ViewModels.Utility" }
      properties := [{ name := "Owner", type := .declared 1 }] },
    { facts :=
        { name := "Person", space? := some "Rock.Model", interfaces := ["Rock.Data.IEntity"] } }]

/-- The import of the bag that stands for references. -/
def ownReferenceBag : Import :=
  ⟨"@Obsidian/ViewModels/Utility/listItemBag", "ListItemBag"⟩

/-- The reference bag with an entity among its properties keeps an import of itself. -/
theorem exists_viewModels_referenceBag : ∃ declaration,
    (viewModels referenceBag {} {} true [.declared 0]).outcome = .ok declaration ∧
      ownReferenceBag ∈ declaration.imports := by
  have hexists : ∃ declaration,
      (viewModels referenceBag {} {} true [.declared 0]).outcome = .ok declaration := by
    rw [exists_viewModels_iff]
    simp only [List.mem_singleton, forall_eq, referenceBag, TypeGraph.properties, TypeGraph.entry?,
      List.getElem?_cons_zero, Option.elim_some]
    exact ⟨_, rfl⟩
  obtain ⟨declaration, h⟩ := hexists
  refine ⟨declaration, h, (mem_imports_viewModels h _).mpr ⟨_, List.mem_singleton_self _, ?_, ?_⟩⟩
  · exact ⟨_, List.mem_singleton_self _, _, rfl, _, List.mem_singleton_self _, rfl⟩
  -- The property refers to the entity only, which is none of the types of the unit.
  · rintro ⟨property, hproperty, part, hpart, hidentity, -⟩
    obtain rfl := List.mem_singleton.mp hproperty
    obtain rfl := List.mem_singleton.mp hpart
    rw [List.map_singleton, List.mem_singleton, ← Identity.same_iff_eq] at hidentity
    revert hidentity
    decide

/-- That import comes from the entity. -/
theorem origin_of_import_referenceBag :
    ∃ declaration, (viewModels referenceBag {} {} true [.declared 0]).outcome = .ok declaration ∧
      referenceBag.ImportedBy {} (.declared 0) ownReferenceBag ∧
      ∃ owner ∈ [TypeRef.declared 0], ∃ property ∈ referenceBag.properties owner,
        ∃ part ∈ (referenceBag.tree property.type).parts, ∃ shape,
          part.classify {} = .ok shape ∧ shape.typeScriptImport? {} = some ownReferenceBag ∧
            (shape.HasFixedName ∨
              part.identity ∉ [TypeRef.declared 0].map
                (fun other => (referenceBag.tree other).identity) ∨
              withoutArity ownReferenceBag.name ≠ ownReferenceBag.name) := by
  obtain ⟨declaration, h, himported⟩ := exists_viewModels_referenceBag
  have hown : referenceBag.ImportedBy {} (.declared 0) ownReferenceBag := ⟨_, _, _, _, rfl, rfl⟩
  exact ⟨declaration, h, hown, origin_of_declared_import h hown himported⟩

/-- The bag that stands for references imports itself for a property whose type is an entity. -/
theorem referenceBag_imports_itself :
    ∃ declaration, (viewModels referenceBag {} {} true [.declared 0]).outcome = .ok declaration ∧
      referenceBag.ImportedBy {} (.declared 0) ownReferenceBag ∧
      ownReferenceBag ∈ declaration.imports := by
  obtain ⟨declaration, h, himported⟩ := exists_viewModels_referenceBag
  exact ⟨declaration, h, ⟨_, _, _, _, rfl, rfl⟩, himported⟩

end TypeExport
