import TypeExport.Proofs.Bag.Supported
import TypeExport.Proofs.Shape.Nesting
import TypeExport.Proofs.ViewModel.Imports

/-!
# Nesting in catalogs

A catalog that was read is flat: its declared types have no parts, and the types that are
constructed from them were written out.  Properties may lead from a type back to itself, but what
follows the parts of a type never does.

* `Catalog.Meets`, `Catalog.has_of_meets` — the types that can be met in a catalog.
* `TypeGraph.Collects` — a list of types still to be visited runs empty, and what was collected.
* `TypeGraph.Ends` — all that follows the parts of a type comes to an end.
* `failsOnly_viewModels` — where units with placeholders fail.
* `nesting_ends` — the types of catalogs that were read.
-/

namespace TypeExport

open Except (FailsOnly failsOnly_ok)

variable {graph : TypeGraph} {type : TypeRef}

/-! ### Types that can be met -/

/-- The types that can be met in a catalog: the declared types, what expressions over it denote, the
types that these are built from, and the types of the properties of all of them. -/
inductive Catalog.Meets (catalog : Catalog) : TypeRef → Prop
  | declared {place : Nat} : place < catalog.graph.entries.length →
      Meets catalog (.declared place)
  | denoted {scope : Expression.Scope} {text : String} {type : TypeRef} :
      scope.catalog = catalog → scope.parse text = .ok type → Meets catalog type
  | part {part whole : TypeRef} : Meets catalog whole → catalog.graph.BuiltFrom part whole →
      Meets catalog part
  | property {owner : TypeRef} {property : Property} : Meets catalog owner →
      property ∈ catalog.graph.properties owner → Meets catalog property.type

/-- A property belongs to a declared type. -/
theorem TypeGraph.exists_entry_of_mem_properties {property : Property}
    (h : property ∈ graph.properties type) :
    ∃ entry ∈ graph.entries, property ∈ entry.properties := by
  unfold properties at h
  cases hentry : graph.entry? type with
  | none => simp [hentry] at h
  | some entry =>
    rw [hentry, Option.elim_some] at h
    cases type with
    | declared place => exact ⟨entry, List.mem_of_getElem? hentry, h⟩
    | named | parameter | array | generic => cases hentry

namespace Catalog

variable {catalog declared : Catalog} {settings : Settings}

/-- The types of properties were denoted when the types were declared. -/
theorem ReadFrom.has_of_mem_properties (h : catalog.ReadFrom declared settings) {owner : TypeRef}
    {property : Property} (hproperty : property ∈ catalog.graph.properties owner) :
    catalog.graph.Has property.type := by
  obtain ⟨entry, hentry, hproperty⟩ := TypeGraph.exists_entry_of_mem_properties hproperty
  obtain ⟨expression, hparse⟩ := h.denoted entry hentry property hproperty
  refine Expression.has_of_denoted ?_ (Expression.denoted_of_parse hparse)
  have hlength := congrArg List.length h.facts
  rw [List.length_map, List.length_map] at hlength
  exact hlength.symm

/-- Whatever can be met in a catalog that was read is a type of its graph. -/
theorem ReadFrom.has_of_meets (h : catalog.ReadFrom declared settings)
    (hmeets : catalog.Meets type) : catalog.graph.Has type := by
  induction hmeets with
  | declared hplace => exact .declared hplace
  | denoted hcatalog hparse =>
    refine Expression.has_of_denoted ?_ (Expression.denoted_of_parse hparse)
    rw [hcatalog]
  | part _ hbuilt ih => exact ih.part h.isPlain.isFlat hbuilt
  | property _ hproperty _ => exact h.has_of_mem_properties hproperty

end Catalog

/-! ### Types still to be visited -/

namespace TypeTree

variable (facts : TypeFacts) (element? : Option TypeTree) (arguments : List TypeTree)

/-- Whether a node is supported is decided by what is below it. -/
theorem isSupported_node (settings : Settings) :
    (node facts element? arguments).isSupported settings
      = supportedStep settings (node facts element? arguments)
        (arguments.map (isSupported settings)) := by
  cases element? <;> simp only [node, isSupported, areSupported_eq_map]

/-- The declared names in a node are its own and those below it. -/
theorem mem_declaredReferences_node (identities : List Identity) (name : String) :
    name ∈ (node facts element? arguments).declaredReferences identities ↔
      name ∈ (node facts element? arguments).nameIfDeclared identities ∨
        ∃ part ∈ element?.toList ++ arguments, name ∈ part.declaredReferences identities := by
  have harguments : name ∈ allDeclaredReferences identities arguments ↔
      ∃ part ∈ arguments, name ∈ part.declaredReferences identities := by
    induction arguments with
    | nil => simp [allDeclaredReferences]
    | cons first rest ih => simp [allDeclaredReferences, ih]
  cases element? with
  | none => simp [node, declaredReferences, harguments]
  | some element => simp [node, declaredReferences, harguments]

end TypeTree

namespace TypeGraph

/-- The names of the declared types among those that are visited, starting with a list of types.  A
visit takes the first type off the list and puts what it is built from in its place, last argument
first. -/
inductive Collects (graph : TypeGraph) (identities : List Identity) :
    List TypeRef → List String → Prop
  | done : Collects graph identities [] []
  | visit {type : TypeRef} {pending : List TypeRef} {names : List String} :
      Collects graph identities
        ((graph.element? type).toList ++ (graph.arguments type).reverse ++ pending) names →
      Collects graph identities (type :: pending)
        ((graph.tree type).nameIfDeclared identities ++ names)

/-- Whatever is still to be visited behind a type, the visits of the type and of its parts end, and
they add the names of the declared types inside the type. -/
def IsCollected (graph : TypeGraph) (identities : List Identity) (type : TypeRef) : Prop :=
  ∀ pending names, graph.Collects identities pending names →
    ∃ found, graph.Collects identities (type :: pending) (found ++ names) ∧
      ∀ name, name ∈ found ↔ name ∈ (graph.tree type).declaredReferences identities

/-- Several types are visited one after the other. -/
theorem collects_append {identities : List Identity} {types pending : List TypeRef}
    {names : List String} (htypes : ∀ type ∈ types, graph.IsCollected identities type)
    (hpending : graph.Collects identities pending names) :
    ∃ found, graph.Collects identities (types ++ pending) (found ++ names) ∧
      ∀ name, name ∈ found ↔
        ∃ type ∈ types, name ∈ (graph.tree type).declaredReferences identities := by
  induction types with
  | nil => exact ⟨[], hpending, by simp⟩
  | cons first rest ih =>
    obtain ⟨hfirst, hrest⟩ := List.forall_mem_cons.mp htypes
    obtain ⟨others, hothers, hmemOthers⟩ := ih hrest
    obtain ⟨found, hfound, hmemFound⟩ := hfirst _ _ hothers
    refine ⟨found ++ others, ?_, fun name => ?_⟩
    · rw [List.append_assoc]
      exact hfound
    · rw [List.mem_append, hmemFound, hmemOthers, List.exists_mem_cons_iff]

/-- The declared names in a type are collected in finitely many steps. -/
theorem isCollected (hflat : graph.IsFlat) (hhas : graph.Has type) (identities : List Identity) :
    graph.IsCollected identities type := by
  -- The induction is on the nesting: what a visit puts on the list stands below the type.
  induction hflat.acc type with
  | intro type _ ih =>
    intro pending names hpending
    have hparts : ∀ part ∈ (graph.element? type).toList ++ (graph.arguments type).reverse,
        graph.IsCollected identities part := by
      intro part hpart
      have hbuilt : graph.BuiltFrom part type := by
        obtain helement | hargument := List.mem_append.mp hpart
        · exact .element (Option.mem_toList.mp helement)
        · exact .argument (List.mem_reverse.mp hargument)
      exact ih part hbuilt (hhas.part hflat hbuilt)
    obtain ⟨found, hfound, hmem⟩ := collects_append hparts hpending
    refine ⟨(graph.tree type).nameIfDeclared identities ++ found, ?_, fun name => ?_⟩
    · rw [List.append_assoc]
      exact .visit hfound
    · rw [List.mem_append, hmem, tree_eq_node hflat hhas, TypeTree.mem_declaredReferences_node]
      simp only [List.mem_append, Option.mem_toList, List.mem_reverse, Option.map_eq_some_iff,
        List.mem_map, or_and_right, exists_or, exists_exists_and_eq_and]

/-! ### Everything that follows parts -/

/-- All that follows the parts of a type comes to an end: its names, its identity, whether it may
stand in a bag, its shape, for which no type is met again inside its own parts, and the declared
types inside it. -/
structure Ends (graph : TypeGraph) (type : TypeRef) : Prop where
  displayName : graph.Answers (fun type => TypeTree.displayStep (graph.facts type)) type
    (graph.tree type).displayName
  identity : graph.Answers (fun type => TypeTree.identityStep (graph.facts type)) type
    (graph.tree type).identity
  isSupported (settings : Settings) :
    graph.Answers (fun type _ => TypeTree.supportedStep settings (graph.tree type)) type
      ((graph.tree type).isSupported settings)
  classify (settings : Settings) :
    graph.Answers (fun type => classifyStep settings (graph.tree type)) type
      (graph.classify settings type)
  noCycle (settings : Settings) (fullName : String) :
    graph.classify settings type ≠ .error (.cycle fullName)
  references (identities : List Identity) : ∃ names, graph.Collects identities [type] names ∧
    ∀ name, name ∈ names ↔ name ∈ (graph.tree type).declaredReferences identities

/-- What is asked of a type of a flat graph ends. -/
theorem ends_of_has (hflat : graph.IsFlat) (hhas : graph.Has type) : graph.Ends type where
  displayName := answers_tree hflat hhas TypeTree.displayName
    (fun tree => TypeTree.displayStep tree.facts) fun facts element? arguments => by
      rw [TypeTree.displayName_node, TypeTree.facts_node]
  identity := answers_tree hflat hhas TypeTree.identity
    (fun tree => TypeTree.identityStep tree.facts) fun facts element? arguments => by
      rw [TypeTree.identity_node, TypeTree.facts_node]
  isSupported settings := answers_tree hflat hhas (TypeTree.isSupported settings)
    (fun tree _ => TypeTree.supportedStep settings tree) fun _ _ _ =>
      TypeTree.isSupported_node _ _ _ settings
  classify settings := answers_tree hflat hhas (TypeTree.classify settings) (classifyStep settings)
    fun _ _ _ => TypeTree.classify_node settings _ _ _
  noCycle settings fullName hcycle := failsOnly_classify hflat hhas settings _ hcycle
  references identities := by
    obtain ⟨found, hfound, hmem⟩ := isCollected hflat hhas identities [] [] .done
    rw [List.append_nil] at hfound
    exact ⟨found, hfound, hmem⟩

end TypeGraph

/-! ### Units with placeholders -/

/-- The error is a malformed marker, neither a repetition nor an unsupported type. -/
def GenerateError.IsMetadata : GenerateError → Prop
  | classify error => error.IsMetadata
  | unsupported _ => False

section

variable {settings : Settings}

/-- The lenient declaration of a property fails only because of metadata. -/
theorem failsOnly_propertyType (hflat : graph.IsFlat) (hhas : graph.Has type) (target : Target)
    (required : Bool) :
    (propertyType graph settings target false required type).outcome.FailsOnly
      GenerateError.IsMetadata := by
  -- Once there is a shape, lenient declaration succeeds, so only its classification can fail.
  cases hshape : graph.classify settings type with
  | error error =>
    have hmetadata := TypeGraph.failsOnly_classify hflat hhas settings error hshape
    rw [propertyType_of_classify_error hshape]
    intro failure hfailure
    obtain rfl : GenerateError.classify error = failure := Except.error.inj hfailure
    exact hmetadata
  | ok shape =>
    obtain ⟨declaration, hdeclare, -⟩ := Shape.declare_agreeSaying target settings required shape
    rw [propertyType_of_classify hshape, Bool.not_false, hdeclare]
    exact failsOnly_ok declaration

/-- A unit with placeholders fails only on account of a marker, if the types of all properties are
types of the graph. -/
theorem failsOnly_viewModels (hflat : graph.IsFlat)
    (hhas : ∀ owner, ∀ property ∈ graph.properties owner, graph.Has property.type)
    (documentation : Documentation) (types : List TypeRef) :
    (viewModels graph settings documentation false types).outcome.FailsOnly
      GenerateError.IsMetadata := by
  -- From the property to the class to the unit, no step adds a reason to fail.
  have hproperty (ownerName : String) {owner : TypeRef} {property : Property}
      (hproperty : property ∈ graph.properties owner) :
      (viewModelProperty graph settings documentation false ownerName property).outcome.FailsOnly
        GenerateError.IsMetadata := by
    simp only [viewModelProperty, Report.outcome_bind]
    exact (failsOnly_propertyType hflat (hhas owner property hproperty) _ _).bind fun _ =>
      failsOnly_ok _
  have hclass (owner : TypeRef) :
      (viewModel graph settings documentation false types owner).outcome.FailsOnly
        GenerateError.IsMetadata := by
    simp only [viewModel, Report.outcome_bind, Report.outcome_mapM]
    refine (FailsOnly.mapM fun property hmem => ?_).bind fun _ => failsOnly_ok _
    exact hproperty _ ((Name.mem_sortByName _ _ _).mp hmem)
  simp only [viewModels, Report.outcome_bind, Report.outcome_mapM]
  exact (FailsOnly.mapM fun owner _ => hclass owner).bind fun _ => failsOnly_ok _

end

/-! ### Catalogs of documents -/

/-- **Nesting ends** in the catalog of every document.  No type has an unending chain of types that
it is built from; for every type that can be met, whatever follows its parts comes to an end and
none is met again inside its own parts; and a unit with placeholders is generated unless a marker is
malformed. -/
theorem nesting_ends {readSettings : Settings} {document : Yaml.Document} {catalog : Catalog}
    (h : Catalog.ofDocument readSettings document = .ok catalog) :
    WellFounded catalog.graph.BuiltFrom ∧
    (∀ type, catalog.Meets type → catalog.graph.Ends type) ∧
    ∀ settings documentation types,
      (∃ declaration, (viewModels catalog.graph settings documentation false types).outcome
        = .ok declaration) ∨
      ∃ error, (viewModels catalog.graph settings documentation false types).outcome
        = .error (.classify (.metadata error)) := by
  obtain ⟨declared, hread⟩ := Catalog.readFrom_of_ofDocument h
  have hflat := hread.isPlain.isFlat
  refine ⟨TypeGraph.wellFounded_builtFrom hflat, fun type hmeets => ?_, ?_⟩
  · exact TypeGraph.ends_of_has hflat (hread.has_of_meets hmeets)
  · intro settings documentation types
    have hfails : (viewModels catalog.graph settings documentation false types).outcome.FailsOnly
        GenerateError.IsMetadata :=
      failsOnly_viewModels hflat (fun _ _ => hread.has_of_mem_properties) documentation types
    cases houtcome : (viewModels catalog.graph settings documentation false types).outcome with
    | ok declaration => exact .inl ⟨declaration, rfl⟩
    | error error =>
      right
      -- All that may fail is a marker, and then there is its error.
      match error, hfails error houtcome with
      | .classify (.metadata error), _ => exact ⟨error, rfl⟩

/-- A person has a manager and lists of other persons. -/
def personText : String :=
  "types:\n"
    ++ "  - name: Person\n"
    ++ "    properties:\n"
    ++ "      - name: Manager\n"
    ++ "        type: Person\n"
    ++ "      - name: Reports\n"
    ++ "        type: \"List<Person[]>\"\n"

/-- The display names of the types of a type's properties. -/
def Catalog.propertyTypes (catalog : Catalog) (type : TypeRef) : List String :=
  (catalog.graph.properties type).map fun property =>
    (catalog.graph.tree property.type).displayName

/-- A class with properties of its own type, alone and in lists of arrays, is settled by the lenient
policy. -/
theorem nesting_ends_person : ∃ catalog,
    Catalog.read {} "people.yaml" personText = .ok catalog ∧
    catalog.propertyTypes (.declared 0) = ["Person", "List<Person[]>"] ∧
    WellFounded catalog.graph.BuiltFrom ∧
    (∀ property ∈ catalog.graph.properties (.declared 0),
      catalog.Meets property.type ∧ catalog.graph.Ends property.type) ∧
    ((∃ declaration, (viewModels catalog.graph {} {} false [.declared 0]).outcome
        = .ok declaration) ∨
      ∃ error, (viewModels catalog.graph {} {} false [.declared 0]).outcome
        = .error (.classify (.metadata error))) := by
  have hread : (Catalog.read {} "people.yaml" personText).toOption.any (fun catalog =>
      catalog.graph.entries.length = 1 ∧
        catalog.propertyTypes (.declared 0) = ["Person", "List<Person[]>"]) = true := by
    decide +kernel
  -- Reading is evaluated once; what follows about the catalog comes from the theorem.
  obtain ⟨catalog, hcatalog, hholds⟩ := Except.exists_of_any hread
  obtain ⟨hlength, htypes⟩ := of_decide_eq_true (p := _ ∧ _) hholds
  obtain ⟨document, -, hdocument⟩ := Catalog.exists_ofDocument_of_read hcatalog
  obtain ⟨hwellFounded, hends, hunits⟩ := nesting_ends hdocument
  refine ⟨catalog, hcatalog, htypes, hwellFounded, fun property hproperty => ?_, hunits {} {} _⟩
  have hplace : 0 < catalog.graph.entries.length := by
    rw [hlength]
    exact Nat.one_pos
  have hmeets : catalog.Meets property.type := .property (.declared hplace) hproperty
  exact ⟨hmeets, hends _ hmeets⟩

end TypeExport
