import TypeExport.Proofs.Expression.Regular
import TypeExport.Proofs.Reflection.Nesting
import Mathlib.Data.List.Nodup

/-!
# Heads of denoted types

Several names may stand for one type.  Two names that stand for types with one full name stand for
the same type, if the declared types and the box leave no doubt about the full name.

* `Scope.IsUnambiguous` — what has to be true of the declared types and of the box.
* `PlainFacts` — the types that names without arguments stand for.
* `PlainFacts.eq_of_fullName`, `HeadOf.eq_of_fullName` — the full name decides what a name stands
  for.
-/

namespace TypeExport

open Name (arityMark lastSegment parentSpace withoutArity behindDots)

/-- A type is not found by a name only if the name is no full name. -/
theorem Catalog.fullName_ne_of_find?_eq_none {catalog : Catalog} {name : String}
    (h : catalog.find? name = none) {entry : TypeEntry} (hentry : entry ∈ catalog.graph.entries) :
    entry.facts.fullName ≠ name := by
  intro hname
  obtain ⟨place, hplace⟩ := List.mem_iff_getElem?.mp hentry
  have hlt : place ∈ catalog.places := List.mem_range.mpr (List.getElem?_eq_some_iff.mp hplace).1
  unfold find? at h
  split at h
  · cases h
  · next hnone =>
    have hfound := List.find?_eq_none.mp hnone place hlt
    simp [factsAt_of_getElem? hplace, isFullName, hname] at hfound

namespace Expression

/-! ### Built-in generic types -/

/-- The full name of a constructed type. -/
def headName (head : GenericHead) : String :=
  qualified head.space? head.name

/-- The full name of a built-in generic type has a namespace, and whatever part of it passes for a
simple name has an arity and ends in the one simple name. -/
theorem builtInHead?_eq_some {simple : String} {arity : Nat} {head : GenericHead}
    (h : builtInHead? simple arity = some head) :
    '.' ∈ (headName head).toList ∧
      ∀ part ∈ (headName head).toList :: behindDots (headName head).toList,
        arityMark ∈ part ∧ lastSegment (withoutArity (.ofList part)) = simple := by
  unfold builtInHead? at h
  -- There are finitely many built-in heads, and each one can be looked at.
  split_ifs at h with hnullable hcollection hdictionary
  · obtain ⟨rfl, -⟩ := hnullable
    obtain rfl := Option.some.inj h
    decide +kernel
  · obtain rfl := Option.some.inj h
    obtain ⟨hsimple, -⟩ := hcollection
    simp only [List.mem_cons, List.not_mem_nil, or_false] at hsimple
    rcases hsimple with rfl | rfl | rfl <;> decide +kernel
  · obtain rfl := Option.some.inj h
    obtain ⟨hsimple, -⟩ := hdictionary
    simp only [List.mem_cons, List.not_mem_nil, or_false] at hsimple
    rcases hsimple with rfl | rfl <;> decide +kernel

/-! ### Scopes without doubt -/

namespace Scope

/-- Whatever name finds a declared type with one parameter and the full name of the box is a name of
the box, too. -/
def KeepsBox (scope : Scope) : Prop :=
  ∀ name place, IsDottedName name.toList → scope.catalog.find? name = some place →
    (scope.catalog.graph.factsAt place).parameters.length = 1 →
    (scope.catalog.graph.factsAt place).fullName = headName (boxHead scope.settings) →
    name ∈ boxNames scope.settings

/-- A full name leaves no doubt about the type: there are no open parameters, no declared type is an
array or a constructed type, no two have the same full name, and none stands beside the box. -/
structure IsUnambiguous (scope : Scope) : Prop where
  parameters : scope.parameters = []
  flat : scope.catalog.graph.IsFlat
  definition : ∀ entry ∈ scope.catalog.graph.entries, entry.facts.definition? = none
  fullNames : (scope.catalog.graph.entries.map fun entry => entry.facts.fullName).Nodup
  box : scope.KeepsBox

variable {scope : Scope}

/-- Declared types with one full name are the same. -/
theorem IsUnambiguous.entry_eq (h : scope.IsUnambiguous) {entry entry' : TypeEntry}
    (hentry : entry ∈ scope.catalog.graph.entries) (hentry' : entry' ∈ scope.catalog.graph.entries)
    (hname : entry.facts.fullName = entry'.facts.fullName) : entry = entry' :=
  List.inj_on_of_nodup_map h.fullNames hentry hentry' hname

end Scope

variable {scope : Scope} {name : String}

/-! ### Names without arguments -/

/-- What a name without arguments stands for. -/
inductive PlainFacts (scope : Scope) : TypeFacts → Prop
  | system {system : String} : system ∈ keywords.map (·.2) →
      PlainFacts scope { name := system, space? := some "System" }
  | declared {name : String} {entry : TypeEntry} : builtIn? name = none →
      entry ∈ scope.catalog.graph.entries → entry.facts.IsFoundBy name →
        PlainFacts scope entry.facts
  | named {name : String} : IsDottedName name.toList → '.' ∈ name.toList →
      scope.catalog.find? name = none →
        PlainFacts scope { name := lastSegment name, space? := some (parentSpace name) }

/-- A dotted name does not start with a dot, so it is the full name of the type it stands for. -/
theorem fullName_named (hname : IsDottedName name.toList) (hdot : '.' ∈ name.toList) :
    ({ name := lastSegment name, space? := some (parentSpace name) } : TypeFacts).fullName
      = name := by
  have hparts := Name.parentSpace_append_lastSegment hdot
  have hspace : parentSpace name ≠ "" := by
    intro hempty
    rw [← hparts, hempty] at hname
    simp only [String.empty_append, String.toList_append] at hname
    exact absurd ((isDottedName_cons_iff '.' _).mp hname).1 (by decide)
  unfold TypeFacts.fullName qualified
  simp only [hspace, if_false]
  exact hparts

/-- A plain name resolves to a type of plain facts. -/
theorem plainFacts_of_resolvePlain (hscope : scope.IsUnambiguous) (hname : IsDottedName name.toList)
    {type : TypeRef} (h : scope.resolvePlain name = .ok type) :
    ∃ facts, scope.catalog.graph.tree type = .type facts [] ∧ PlainFacts scope facts := by
  cases plainlyResolved_of_resolvePlain h with
  | parameter hparameter =>
    rw [hscope.parameters] at hparameter
    cases hparameter
  | system hsystem => exact ⟨_, rfl, .system hsystem⟩
  | declared hbuiltIn hplace =>
    -- A declared type is a leaf of its own, as the scope has no types with arguments in their
    -- places.
    obtain ⟨entry, hentry, hfound⟩ := Catalog.find?_eq_some hplace
    have hmem := List.mem_of_getElem? hentry
    obtain ⟨helement, harguments⟩ := hscope.flat entry hmem
    exact ⟨entry.facts, TypeGraph.tree_leaf hentry helement harguments,
      .declared hbuiltIn hmem hfound⟩
  | named hbuiltIn hnone hdot => exact ⟨_, rfl, .named hname hdot hnone⟩

namespace PlainFacts

variable {facts facts' : TypeFacts}

/-- A type of plain facts has no generic definition. -/
theorem definition_eq_none (h : PlainFacts scope facts) (hscope : scope.IsUnambiguous) :
    facts.definition? = none := by
  cases h with
  | system | named => rfl
  | declared _ hentry _ => exact hscope.definition _ hentry

/-- A type with a primitive name has the simple name that belongs to it. -/
theorem name_of_primitive (h : PlainFacts scope facts)
    (hprimitive : facts.fullName ∈ primitiveNames) :
    facts.name = lastSegment facts.fullName := by
  cases h with
  | system hsystem => exact lastSegment_fullName _ (lastSegment_of_keyword hsystem)
  | declared hbuiltIn _ hfound => exact TypeFacts.name_of_declared hfound hbuiltIn hprimitive
  | named => exact lastSegment_fullName _ (Name.lastSegment_lastSegment _).symm

/-- The full name decides what a name stands for, unless it is primitive. -/
theorem eq_of_fullName (hscope : scope.IsUnambiguous) (h : PlainFacts scope facts)
    (h' : PlainFacts scope facts') (hfull : facts.fullName = facts'.fullName)
    (hprimitive : facts.fullName ∉ primitiveNames) : facts = facts' := by
  have hsystem : ∀ system ∈ keywords.map (·.2),
      ({ name := system, space? := some "System" } : TypeFacts).fullName ∈ primitiveNames := by
    decide +kernel
  -- System names are primitive, and a name that finds no type is not the full name of one.
  cases h with
  | system hmem => exact absurd (hsystem _ hmem) hprimitive
  | declared _ hentry _ =>
    cases h' with
    | system hmem => exact absurd (hfull ▸ hsystem _ hmem) hprimitive
    | declared _ hentry' _ => rw [hscope.entry_eq hentry hentry' hfull]
    | named hname hdot hnone =>
      rw [fullName_named hname hdot] at hfull
      exact absurd hfull (Catalog.fullName_ne_of_find?_eq_none hnone hentry)
  | named hname hdot hnone =>
    rw [fullName_named hname hdot] at hfull
    cases h' with
    | system hmem =>
      rw [fullName_named hname hdot, hfull] at hprimitive
      exact absurd (hsystem _ hmem) hprimitive
    | declared _ hentry' _ =>
      exact absurd hfull.symm (Catalog.fullName_ne_of_find?_eq_none hnone hentry')
    | named hname' hdot' _ =>
      rw [fullName_named hname' hdot'] at hfull
      rw [hfull]

end PlainFacts

/-! ### Names with arguments -/

/-- The full name of the box is what the settings say, if it has a namespace. -/
theorem headName_boxHead {settings : Settings}
    (h : '.' ∈ (headName (Scope.boxHead settings)).toList) :
    headName (Scope.boxHead settings) = settings.boxDefinition := by
  -- Without a namespace the full name is the last segment, in which no dot stands.
  by_cases hspace : parentSpace settings.boxDefinition = ""
  · have hname : headName (Scope.boxHead settings) = lastSegment settings.boxDefinition := by
      simp [headName, Scope.boxHead, qualified, hspace]
    rw [hname] at h
    exact absurd h (Name.dot_notMem_lastSegment _)
  · have hdot : '.' ∈ settings.boxDefinition.toList := by
      by_contra hnone
      exact hspace (Name.parentSpace_of_notMem hnone)
    have hname : headName (Scope.boxHead settings)
        = parentSpace settings.boxDefinition ++ "." ++ lastSegment settings.boxDefinition := by
      simp [headName, Scope.boxHead, qualified, hspace]
    rw [hname]
    exact Name.parentSpace_append_lastSegment hdot

namespace HeadOf

variable {name' : String} {head head' : GenericHead} {arity : Nat}

/-- A name behind which a built-in generic type stands is looked for among these. -/
theorem eq_builtIn (hname : IsDottedName name.toList) (h : HeadOf scope name arity head)
    {simple : String} (hhead' : builtInHead? simple arity = some head')
    (hfull : headName head = headName head') : head = head' := by
  obtain ⟨hdot, hparts⟩ := builtInHead?_eq_some hhead'
  have hsimple : lastSegment (withoutArity (headName head')) = simple := by
    have hwhole := (hparts _ List.mem_cons_self).2
    rwa [String.ofList_toList] at hwhole
  cases h with
  | builtIn hhead =>
    have hwhole := ((builtInHead?_eq_some hhead).2 _ List.mem_cons_self).2
    rw [String.ofList_toList, hfull, hsimple] at hwhole
    rw [← hwhole, hhead'] at hhead
    exact (Option.some.inj hhead).symm
  | box hnone hmem _ =>
    -- The box has the full name, so the last segment of its names is the simple name.
    have hdefinition : scope.settings.boxDefinition = headName head' := by
      rw [← hfull, headName_boxHead (by rwa [hfull])]
    have hlast : lastSegment name = simple := by
      rw [Scope.boxNames, hdefinition] at hmem
      rcases List.mem_cons.mp hmem with rfl | hmem
      · exact hsimple
      · obtain rfl := List.mem_singleton.mp hmem
        rw [Name.lastSegment_lastSegment]
        exact hsimple
    rw [hlast, hhead'] at hnone
    cases hnone
  | @constructed place hnone _ hplace _ =>
    obtain ⟨entry, hentry, hfound⟩ := Catalog.find?_eq_some hplace
    rw [Catalog.factsAt_of_getElem? hentry] at hfull
    have hlast : lastSegment name = simple :=
      TypeFacts.lastSegment_of_isFoundBy hparts hfull hfound hname.arityMark_notMem
    rw [hlast, hhead'] at hnone
    cases hnone

/-- The full name decides what a name with arguments stands for. -/
theorem eq_of_fullName (hscope : scope.IsUnambiguous) (hname : IsDottedName name.toList)
    (hname' : IsDottedName name'.toList) (h : HeadOf scope name arity head)
    (h' : HeadOf scope name' arity head') (hfull : headName head = headName head') :
    head = head' := by
  -- Built-in heads, the box and constructed types differ in their full names, so only equal kinds
  -- remain.
  cases h with
  | builtIn hhead => exact (h'.eq_builtIn hname' hhead hfull.symm).symm
  | box hnone hmem hone =>
    cases h' with
    | builtIn hhead' => exact (HeadOf.box hnone hmem hone).eq_builtIn hname hhead' hfull
    | box _ _ _ => rfl
    | constructed _ hbox hplace harity =>
      exact absurd (hscope.box _ _ hname' hplace (harity.trans hone) hfull.symm) (hbox hone)
  | constructed hnone hbox hplace harity =>
    cases h' with
    | builtIn hhead' =>
      exact (HeadOf.constructed hnone hbox hplace harity).eq_builtIn hname hhead' hfull
    | box _ _ hone =>
      exact absurd (hscope.box _ _ hname hplace (harity.trans hone) hfull) (hbox hone)
    | constructed _ _ hplace' _ =>
      obtain ⟨entry, hentry, -⟩ := Catalog.find?_eq_some hplace
      obtain ⟨entry', hentry', -⟩ := Catalog.find?_eq_some hplace'
      rw [Catalog.factsAt_of_getElem? hentry, Catalog.factsAt_of_getElem? hentry'] at hfull ⊢
      rw [hscope.entry_eq (List.mem_of_getElem? hentry) (List.mem_of_getElem? hentry') hfull]

end HeadOf

end Expression

end TypeExport
