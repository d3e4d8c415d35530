import TypeExport.ConstantTable
import TypeExport.EntityBag
import TypeExport.Enumeration
import TypeExport.Proofs.Name.Order
import Mathlib.Data.List.Forall2

/-!
# Order of members

Members and types are sorted by name before anything is generated from them.  As long as the keys of
their names differ, the order in which they were declared is lost there, and nothing else depends
on it.

* `TypeEntry.Reordered`, `TypeGraph.Reordered` — the same types with properties and constants in
  another order.
* `TypeGraph.Reordered.tree_eq` — trees do not depend on members.
* `generated_in_any_order` — no generator depends on the order of what it sorts.
-/

namespace TypeExport

open Name (DistinctKeys)

/-! ### Types with members in another order -/

/-- The entries are the same but for the order of properties and constants. -/
structure TypeEntry.Reordered (entry entry' : TypeEntry) : Prop where
  facts : entry.facts = entry'.facts
  element : entry.element? = entry'.element?
  arguments : entry.arguments = entry'.arguments
  properties : entry.properties.Perm entry'.properties
  fields : entry.fields = entry'.fields
  constants : entry.constants.Perm entry'.constants

/-- The graphs declare the same types at the same places, but for the order of their properties and
constants. -/
def TypeGraph.Reordered (graph graph' : TypeGraph) : Prop :=
  List.Forall₂ TypeEntry.Reordered graph.entries graph'.entries

namespace TypeGraph

variable {graph graph' : TypeGraph}

/-- At each place there is no entry in either graph, or there are entries that correspond. -/
theorem Reordered.getElem? (h : graph.Reordered graph') (place : Nat) :
    Option.Rel TypeEntry.Reordered graph.entries[place]? graph'.entries[place]? := by
  unfold Reordered at h
  generalize graph.entries = entries at h ⊢
  generalize graph'.entries = entries' at h ⊢
  induction h generalizing place with
  | nil => exact .none
  | cons hfirst _ ih =>
    cases place with
    | zero => exact .some hfirst
    | succ place => exact ih place

/-- Reordering members changes no facts of a declared type. -/
theorem Reordered.factsAt_eq (h : graph.Reordered graph') (place : Nat) :
    graph.factsAt place = graph'.factsAt place := by
  have hplace := h.getElem? place
  unfold factsAt
  generalize graph.entries[place]? = entry?, graph'.entries[place]? = entry'? at hplace
  cases hplace with
  | none => rfl
  | some hentry => exact hentry.facts

/-- Reordering members changes no tree of an entry. -/
theorem treeOfEntry_eq_of_reordered {entry entry' : TypeEntry} (h : entry.Reordered entry')
    (declared : Nat → TypeTree) : treeOfEntry declared entry = treeOfEntry declared entry' := by
  unfold treeOfEntry
  rw [h.facts, h.element, h.arguments]

/-- Reordering members changes no tree of a declared type. -/
theorem Reordered.declaredTree_eq (h : graph.Reordered graph') (shown : Nat → String)
    (budget : Nat) (unfolding : List Nat) (place : Nat) :
    graph.declaredTree shown budget unfolding place
      = graph'.declaredTree shown budget unfolding place := by
  induction budget generalizing unfolding place with
  | zero =>
    unfold declaredTree
    rw [h.factsAt_eq]
  | succ budget ih =>
    -- Corresponding entries have the same types below them, so both trees are cut at the same
    -- places.
    have hbelow : graph.declaredTree shown budget (place :: unfolding)
        = graph'.declaredTree shown budget (place :: unfolding) := funext fun _ => ih _ _
    unfold declaredTree
    have hplace := h.getElem? place
    rw [h.factsAt_eq, hbelow]
    generalize graph.entries[place]? = entry?, graph'.entries[place]? = entry'? at hplace
    cases hplace with
    | none => rfl
    | some hentry => simp only [treeOfEntry_eq_of_reordered hentry]

/-- Reordering members changes no name that is shown. -/
theorem Reordered.shownAt_eq (h : graph.Reordered graph') : graph.shownAt = graph'.shownAt := by
  have hlength : graph.entries.length = graph'.entries.length := List.Forall₂.length_eq h
  funext place
  unfold shownAt
  simp only [h.factsAt_eq, hlength]
  rw [h.declaredTree_eq]

/-- Types are built from the same types. -/
theorem Reordered.tree_eq (h : graph.Reordered graph') : graph.tree = graph'.tree := by
  have hlength : graph.entries.length = graph'.entries.length := List.Forall₂.length_eq h
  funext type
  unfold tree
  rw [hlength, h.shownAt_eq]
  exact congrArg (TypeRef.tree · type) (funext fun place => h.declaredTree_eq _ _ _ place)

/-- Reordering members changes no facts of any type. -/
theorem Reordered.facts_eq (h : graph.Reordered graph') : graph.facts = graph'.facts := by
  unfold facts
  rw [h.tree_eq]

/-- Reordering members changes no shape. -/
theorem Reordered.classify_eq (h : graph.Reordered graph') : graph.classify = graph'.classify := by
  unfold classify
  rw [h.tree_eq]

/-- The entries of a reference correspond, too. -/
theorem Reordered.entry? (h : graph.Reordered graph') (type : TypeRef) :
    Option.Rel TypeEntry.Reordered (graph.entry? type) (graph'.entry? type) := by
  cases type with
  | declared place => exact h.getElem? place
  | named | parameter | array | generic => exact .none

/-- The properties of a type are the same up to their order. -/
theorem Reordered.properties_perm (h : graph.Reordered graph') (type : TypeRef) :
    (graph.properties type).Perm (graph'.properties type) := by
  have hentry := h.entry? type
  unfold properties
  generalize graph.entry? type = entry?, graph'.entry? type = entry'? at hentry
  cases hentry with
  | none => exact .nil
  | some hentry => exact hentry.properties

/-- The constants of a type are the same up to their order. -/
theorem Reordered.constants_perm (h : graph.Reordered graph') (type : TypeRef) :
    (graph.constants type).Perm (graph'.constants type) := by
  have hentry := h.entry? type
  unfold constants
  generalize graph.entry? type = entry?, graph'.entry? type = entry'? at hentry
  cases hentry with
  | none => exact .nil
  | some hentry => exact hentry.constants

end TypeGraph

/-! ### Generators -/

section

variable {graph graph' : TypeGraph} (settings : Settings) (documentation : Documentation)
  (strict : Bool)

/-- The line of a property depends only on what the types of the graph are built from. -/
theorem viewModelProperty_eq_of_reordered (h : graph.Reordered graph') :
    viewModelProperty graph settings documentation strict
      = viewModelProperty graph' settings documentation strict := by
  have hrequired (property : Property) :
      property.isRequired graph = property.isRequired graph' := by
    unfold Property.isRequired
    rw [h.facts_eq]
  have htype : propertyType graph = propertyType graph' := by
    unfold propertyType
    rw [h.classify_eq]
  funext ownerName property
  unfold viewModelProperty
  rw [hrequired, htype]

/-- A view model does not depend on the order of the properties. -/
theorem viewModel_eq_of_reordered (h : graph.Reordered graph') (unit : List TypeRef)
    {type : TypeRef}
    (hdistinct : DistinctKeys (fun property : Property => property.name) (graph.properties type)) :
    viewModel graph settings documentation strict unit type
      = viewModel graph' settings documentation strict unit type := by
  have hsorted := Name.sortByName_eq_of_perm _ (h.properties_perm type) hdistinct
  have hcount := (h.properties_perm type).length_eq
  have hlines := viewModelProperty_eq_of_reordered settings documentation strict h
  simp only [viewModel]
  rw [hsorted, hcount, h.tree_eq, hlines]

/-- A table of constants does not depend on the order of the constants. -/
theorem constantTable_eq_of_reordered (h : graph.Reordered graph') {type : TypeRef}
    (hdistinct : DistinctKeys (fun constant : Constant => constant.name) (graph.constants type)) :
    constantTable graph documentation type = constantTable graph' documentation type := by
  have hsorted := Name.sortByName_eq_of_perm _ (h.constants_perm type) hdistinct
  simp only [constantTable]
  rw [hsorted, h.facts_eq]

/-- A bag does not depend on the order of the properties. -/
theorem entityBag_eq_of_perm (entityName : String) (summary? : Option String)
    {properties properties' : List OwnedProperty} (h : properties.Perm properties')
    (hdistinct : DistinctKeys (fun owned : OwnedProperty => owned.property.name)
      (properties.filter fun owned => (graph.tree owned.property.type).isSupported settings)) :
    entityBag graph settings documentation strict entityName summary? properties
      = entityBag graph settings documentation strict entityName summary? properties' := by
  have hsorted := Name.sortByName_eq_of_perm _ (h.filter _) hdistinct
  simp only [entityBag]
  rw [hsorted]

end

/-- **No order of declaration shows** in what is generated, as long as the names that are sorted
have distinct keys.  A class gives the same report and the same table when its properties and
constants are declared in another order; a bag gives the same report when the properties are; and
several enumerations or tables give the same text, or fail alike, when the types are. -/
theorem generated_in_any_order (settings : Settings) (documentation : Documentation) :
    (∀ graph graph' : TypeGraph, graph.Reordered graph' → ∀ type,
      (DistinctKeys (fun property : Property => property.name) (graph.properties type) →
        ∀ strict unit, viewModel graph settings documentation strict unit type
          = viewModel graph' settings documentation strict unit type) ∧
      (DistinctKeys (fun constant : Constant => constant.name) (graph.constants type) →
        constantTable graph documentation type = constantTable graph' documentation type)) ∧
    (∀ (graph : TypeGraph) (properties properties' : List OwnedProperty),
      properties.Perm properties' →
      DistinctKeys (fun owned : OwnedProperty => owned.property.name)
        (properties.filter fun owned => (graph.tree owned.property.type).isSupported settings) →
      ∀ strict entityName summary?,
        entityBag graph settings documentation strict entityName summary? properties
          = entityBag graph settings documentation strict entityName summary? properties') ∧
    ∀ (graph : TypeGraph) (types types' : List TypeRef), types.Perm types' →
      DistinctKeys (fun type => (graph.facts type).name) types →
      enumDeclarations graph settings documentation types
          = enumDeclarations graph settings documentation types' ∧
        constantTables graph documentation types = constantTables graph documentation types' := by
  refine ⟨fun graph graph' hgraph type => ⟨fun hdistinct strict unit => ?_, fun hdistinct => ?_⟩,
    fun graph properties properties' hperm hdistinct strict entityName summary? => ?_,
    fun graph types types' hperm hdistinct => ?_⟩
  · exact viewModel_eq_of_reordered settings documentation strict hgraph unit hdistinct
  · exact constantTable_eq_of_reordered documentation hgraph hdistinct
  · exact entityBag_eq_of_perm settings documentation strict entityName summary? hperm hdistinct
  -- Several types are written in the order of their names, and nothing else depends on their order.
  · have hsorted := Name.sortByName_eq_of_perm _ hperm hdistinct
    constructor
    · simp only [enumDeclarations]
      rw [hsorted]
    · simp only [constantTables]
      rw [hsorted]

/-- A class with the given members, and two enumerations. -/
def directory (properties : List Property) (constants : List Constant) : TypeGraph where
  entries := [
    { facts := { name := "Person", space? := some "Rock.Model" }, properties, constants },
    { facts := { name := "Rank", isEnum := true }, fields := [⟨"Junior", 1, []⟩] },
    { facts := { name := "alias", isEnum := true }, fields := [⟨"None", 0, []⟩] }]

/-- The members of a class, the properties of a bag and the types of a batch exchange places, and
nothing that is generated changes. -/
theorem generated_in_any_order_directory :
    let link : Property := { name := "Link", type := .named "Handle" (some "Vendor") }
    let name : Property := { name := "name", type := .system "String" }
    let other : Property := { name := "Name", type := .system "String" }
    let first : Constant := { name := "FIRST", value := "1" }
    let second : Constant := { name := "SECOND", value := "2" }
    let graph := directory [name, link, other] [first, second]
    let graph' := directory [link, name, other] [second, first]
    viewModel graph {} {} false [] (.declared 0) = viewModel graph' {} {} false [] (.declared 0) ∧
    constantTable graph {} (.declared 0) = constantTable graph' {} (.declared 0) ∧
    entityBag graph {} {} true "Person" none [⟨none, name⟩, ⟨none, other⟩]
      = entityBag graph {} {} true "Person" none [⟨none, other⟩, ⟨none, name⟩] ∧
    enumDeclarations graph {} {} [.declared 1, .declared 2]
      = enumDeclarations graph {} {} [.declared 2, .declared 1] ∧
    constantTables graph {} [.declared 0, .declared 1]
      = constantTables graph {} [.declared 1, .declared 0] := by
  intro link name other first second graph graph'
  obtain ⟨hmembers, hbags, htypes⟩ := generated_in_any_order {} {}
  have hgraph : graph.Reordered graph' :=
    .cons ⟨rfl, rfl, rfl, .swap _ _ _, rfl, .swap _ _ _⟩ (List.forall₂_same.mpr fun _ _ =>
      ⟨rfl, rfl, rfl, .refl _, rfl, .refl _⟩)
  have hproperties : DistinctKeys (fun property : Property => property.name)
      [name, link, other] := by decide +kernel
  have hconstants : DistinctKeys (fun constant : Constant => constant.name) [first, second] := by
    decide +kernel
  have hbag : DistinctKeys (fun owned : OwnedProperty => owned.property.name)
      ([⟨none, name⟩, ⟨none, other⟩].filter fun owned =>
        (graph.tree owned.property.type).isSupported {}) := by decide +kernel
  have henums : DistinctKeys (fun type => (graph.facts type).name) [.declared 1, .declared 2] := by
    decide +kernel
  have htables : DistinctKeys (fun type => (graph.facts type).name) [.declared 0, .declared 1] := by
    decide +kernel
  obtain ⟨hclass, htable⟩ := hmembers graph graph' hgraph (.declared 0)
  exact ⟨hclass hproperties false [], htable hconstants,
    hbags graph _ _ (.swap _ _ _) hbag true "Person" none,
    (htypes graph _ _ (.swap _ _ _) henums).1, (htypes graph _ _ (.swap _ _ _) htables).2⟩

end TypeExport
