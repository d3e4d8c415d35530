import TypeExport.Catalog.Edit
import TypeExport.Proofs.Name.Basic
import TypeExport.Proofs.Outcome

/-!
# Plain catalogs

The types that a catalog declares are not built from other types, and the name of a generic one has
the number of its parameters behind a mark.

* `TypeEntry.IsPlain`, `Catalog.IsPlain` — such types and catalogs.
* `TypeFacts.IsFoundBy`, `Catalog.find?_eq_some` — the names by which a declared type is found.
* `TypeGraph.tree_generic`, `TypeGraph.tree_declared` — a constructed type has its arguments below
  it, a plain type nothing.
* `Catalog.IsPlain.change` and its neighbours — changing a catalog keeps it plain.
-/

namespace TypeExport

open Name (withoutArity)

/-- A declared type that is not built from other types. -/
structure TypeEntry.IsPlain (entry : TypeEntry) : Prop where
  definition : entry.facts.definition? = none
  element : entry.element? = none
  arguments : entry.arguments = []
  arity : entry.facts.parameters ≠ [] → Name.arityMark ∈ entry.facts.name.toList

/-- All declared types are plain. -/
def Catalog.IsPlain (catalog : Catalog) : Prop :=
  ∀ entry ∈ catalog.graph.entries, entry.IsPlain

/-! ### Finding declared types -/

/-- The name is the full name or the simple name of the type, with or without its arity. -/
def TypeFacts.IsFoundBy (facts : TypeFacts) (name : String) : Prop :=
  name = facts.fullName ∨ name = withoutArity facts.fullName ∨
    name = facts.name ∨ name = withoutArity facts.name

namespace Catalog

/-- Names that differ from type to type tell their places apart. -/
theorem place_eq_of_nodup {entries : List TypeEntry} {name : TypeEntry → String}
    (h : (entries.map name).Nodup) {place place' : Nat} {entry entry' : TypeEntry}
    (hentry : entries[place]? = some entry) (hentry' : entries[place']? = some entry')
    (hname : name entry = name entry') : place = place' := by
  have hlt := (List.getElem?_eq_some_iff.mp hentry).1
  refine (List.getElem?_inj (by rwa [List.length_map]) h).mp ?_
  rw [List.getElem?_map, List.getElem?_map, hentry, hentry', Option.map_some, Option.map_some,
    hname]

/-- The facts at a place are those of the entry there. -/
theorem factsAt_of_getElem? {catalog : Catalog} {place : Nat} {entry : TypeEntry}
    (h : catalog.graph.entries[place]? = some entry) :
    catalog.graph.factsAt place = entry.facts := by
  rw [TypeGraph.factsAt, h, Option.elim_some]

/-- A type is found by one of its names. -/
theorem find?_eq_some {catalog : Catalog} {name : String} {place : Nat}
    (h : catalog.find? name = some place) :
    ∃ entry, catalog.graph.entries[place]? = some entry ∧ entry.facts.IsFoundBy name := by
  -- Full names are asked first, and simple names only count if a single type has them.
  have hfound : place ∈ catalog.places ∧ (catalog.graph.factsAt place).IsFoundBy name := by
    unfold find? at h
    split at h
    · next found hfind =>
      obtain rfl := Option.some.inj h
      have hname := List.find?_some hfind
      simp only [isFullName, Bool.or_eq_true, beq_iff_eq] at hname
      exact ⟨List.mem_of_find?_eq_some hfind, hname.elim .inl fun h => .inr (.inl h)⟩
    · split at h
      · next found hfilter =>
        obtain rfl := Option.some.inj h
        obtain ⟨hplace, hname⟩ := List.mem_filter.mp (hfilter ▸ List.mem_singleton_self found)
        simp only [isSimpleName, Bool.or_eq_true, beq_iff_eq] at hname
        exact ⟨hplace, .inr (.inr hname)⟩
      · cases h
  obtain ⟨hplace, hname⟩ := hfound
  have hentry := List.getElem?_eq_getElem (List.mem_range.mp hplace)
  exact ⟨_, hentry, factsAt_of_getElem? hentry ▸ hname⟩

end Catalog

/-! ### Trees of types -/

/-- The trees of several types are taken one by one. -/
theorem TypeRef.trees_eq_map (declared : Nat → TypeTree) (types : List TypeRef) :
    TypeRef.trees declared types = types.map (TypeRef.tree declared) := by
  induction types with
  | nil => rfl
  | cons type rest ih => rw [trees, ih, List.map_cons]

/-- Below a constructed type stand its arguments. -/
theorem TypeGraph.tree_generic (graph : TypeGraph) (head : GenericHead) (arguments : List TypeRef) :
    graph.tree (.generic head arguments)
      = .type (TypeTree.genericFacts head) (arguments.map graph.tree) := by
  rw [tree, TypeRef.tree, TypeRef.trees_eq_map]
  rfl

/-- Nothing stands below a declared type that is not built from other types. -/
theorem TypeGraph.tree_leaf {graph : TypeGraph} {place : Nat} {entry : TypeEntry}
    (hentry : graph.entries[place]? = some entry) (helement : entry.element? = none)
    (harguments : entry.arguments = []) :
    graph.tree (.declared place) = .type entry.facts [] := by
  simp only [tree, TypeRef.tree, declaredTree, List.contains_nil, Bool.false_eq_true, if_false,
    hentry, treeOfEntry, helement, harguments, TypeRef.trees]

/-- Nothing stands below a plain type. -/
theorem TypeGraph.tree_declared {graph : TypeGraph} {place : Nat} {entry : TypeEntry}
    (hentry : graph.entries[place]? = some entry) (hplain : entry.IsPlain) :
    graph.tree (.declared place) = .type entry.facts [] :=
  tree_leaf hentry hplain.element hplain.arguments

/-! ### Changed catalogs -/

namespace Catalog

variable {catalog changed : Catalog}

/-- A catalog stays plain if the entry that is changed does. -/
theorem IsPlain.changeAt (h : catalog.IsPlain) (place : Nat) {change : TypeEntry → TypeEntry}
    (hchange : ∀ entry, entry.IsPlain → (change entry).IsPlain) :
    (catalog.changeAt place change).IsPlain := by
  intro entry hentry
  obtain ⟨index, hindex⟩ := List.mem_iff_getElem?.mp hentry
  rw [Catalog.changeAt, List.getElem?_modify] at hindex
  obtain ⟨old, hold, rfl⟩ := Option.map_eq_some_iff.mp hindex
  have hplain := h old (List.mem_of_getElem? hold)
  split
  · exact hchange old hplain
  · exact hplain

/-- A catalog stays plain if the change keeps entries plain. -/
theorem IsPlain.change (h : catalog.IsPlain) {name : String} {change : TypeEntry → TypeEntry}
    (hchange : ∀ entry, entry.IsPlain → (change entry).IsPlain)
    (hresult : catalog.change name change = .ok changed) : changed.IsPlain := by
  obtain ⟨place, -, hresult⟩ := Except.bind_eq_ok_iff.mp hresult
  obtain rfl := Except.ok.inj hresult
  exact h.changeAt place hchange

/-- Adding a property keeps a catalog plain. -/
theorem IsPlain.addProperty (h : catalog.IsPlain) {settings : Settings}
    {typeName name expression : String} {markers : List Marker} {isRequired? : Option Bool}
    (hresult : catalog.addProperty settings typeName name expression markers isRequired?
      = .ok changed) : changed.IsPlain := by
  obtain ⟨place, -, hresult⟩ := Except.bind_eq_ok_iff.mp hresult
  obtain ⟨type, -, hresult⟩ := Except.bind_eq_ok_iff.mp hresult
  obtain rfl := Except.ok.inj hresult
  exact h.changeAt place fun _ hentry =>
    ⟨hentry.definition, hentry.element, hentry.arguments, hentry.arity⟩

/-- Adding a field keeps a catalog plain. -/
theorem IsPlain.addField (h : catalog.IsPlain) {typeName : String} {field : Field}
    (hresult : catalog.addField typeName field = .ok changed) : changed.IsPlain := by
  refine h.change (fun entry hentry => ?_) hresult
  exact ⟨hentry.definition, hentry.element, hentry.arguments, hentry.arity⟩

/-- Adding a marker keeps a catalog plain. -/
theorem IsPlain.addMarker (h : catalog.IsPlain) {typeName : String} {marker : Marker}
    (hresult : catalog.addMarker typeName marker = .ok changed) : changed.IsPlain := by
  refine h.change (fun entry hentry => ?_) hresult
  exact ⟨hentry.definition, hentry.element, hentry.arguments, hentry.arity⟩

/-- Adding an interface keeps a catalog plain. -/
theorem IsPlain.addInterface (h : catalog.IsPlain) {typeName interface : String}
    (hresult : catalog.addInterface typeName interface = .ok changed) : changed.IsPlain := by
  refine h.change (fun entry hentry => ?_) hresult
  exact ⟨hentry.definition, hentry.element, hentry.arguments, hentry.arity⟩

end Catalog

end TypeExport
