import TypeExport.Proofs.Catalog.Plain
import TypeExport.Proofs.Expression.Denoted
import TypeExport.Proofs.Shape.Rules

/-!
# Denoted types are regular

The rules for types look at full names and definitions.  A type that an expression denotes cannot
mislead them: built-in names come first, so no declared type passes for a nullable form, for a
dictionary or for a primitive type of another name.

* `TypeFacts.IsRegular` — what the names of a type say of it.
* `TypeTree.Regular` — a type whose parts are regular, and which is an array or has no element type.
* `regular_of_denoted` — over a plain catalog, denoted types are regular.
-/

namespace TypeExport

open Name (arityMark lastSegment withoutArity behindDots)

/-- What the names of a type with a number of arguments say of it: a nullable form and a dictionary
are the built-in ones, a constructed type is no enumeration, and a type with a primitive name that
is no open parameter has the simple name that belongs to it. -/
structure TypeFacts.IsRegular (facts : TypeFacts) (arity : Nat) : Prop where
  nullable : facts.definition? = some TypeRef.nullableDefinition → arity = 1 →
    facts.fullName = TypeRef.nullableDefinition ∧ facts.interfaces = []
  dictionary : ∀ definition ∈ dictionaryDefinitions, facts.definition? = some definition →
    arity = 2 → facts.interfaces = []
  notEnum : facts.isGeneric → facts.isEnum = false
  name : facts.fullName ∈ primitiveNames →
    facts.isParameter ∨ facts.name = lastSegment facts.fullName

/-- A regular type with regular parts. -/
inductive TypeTree.Regular : TypeTree → Prop
  | type {facts : TypeFacts} {arguments : List TypeTree} : facts.IsRegular arguments.length →
      (∀ argument ∈ arguments, argument.Regular) → (type facts arguments).Regular
  | array {element : TypeTree} : element.Regular → (arrayOf element).Regular

/-! ### Names that find a type -/

namespace TypeFacts

variable {facts : TypeFacts} {name : String}

/-- Whatever part of a full name is the namespace, the names without an arity end alike. -/
theorem lastSegment_of_isFoundBy {definition simple : String}
    (hsegments : ∀ part ∈ definition.toList :: behindDots definition.toList,
      arityMark ∈ part ∧ lastSegment (withoutArity (.ofList part)) = simple)
    (hfull : facts.fullName = definition) (hfound : facts.IsFoundBy name)
    (hmark : arityMark ∉ name.toList) : lastSegment name = simple := by
  -- The simple name is the full one or stands behind one of its dots.
  have hname : facts.name.toList ∈ definition.toList :: behindDots definition.toList := by
    rw [← hfull, List.mem_cons]
    exact (Name.mem_behindDots_of_qualified _ _).imp_left (congrArg String.toList)
  have hwhole := hsegments _ List.mem_cons_self
  have hpart := hsegments _ hname
  rw [String.ofList_toList] at hwhole hpart
  rcases hfound with rfl | rfl | rfl | rfl
  · exact absurd (hfull ▸ hwhole.1) hmark
  · rw [hfull]
    exact hwhole.2
  · exact absurd hpart.1 hmark
  · exact hpart.2

/-- A declared type that is found by no built-in name has no simple name but that of its full name,
if this is primitive. -/
theorem name_of_declared (hfound : facts.IsFoundBy name)
    (hbuiltIn : Expression.builtIn? name = none) (hprimitive : facts.fullName ∈ primitiveNames) :
    facts.name = lastSegment facts.fullName := by
  have hsegments : ∀ full ∈ primitiveNames, ∀ part ∈ behindDots full.toList,
      part = (lastSegment full).toList := by decide +kernel
  obtain hwhole | hpart := Name.mem_behindDots_of_qualified facts.space? facts.name
  · -- All names of the type would be its full name, which is built-in.
    have hself : withoutArity facts.fullName = facts.fullName :=
      Name.withoutArity_of_notMem (arityMark_notMem_of_primitive hprimitive)
    have hsome : ∀ full ∈ primitiveNames, (Expression.builtIn? full).isSome := by decide +kernel
    have hfull : name = facts.fullName := by
      have hwhole : facts.name = facts.fullName := hwhole
      rcases hfound with h | h | h | h
      · exact h
      · rw [h, hself]
      · rw [h, hwhole]
      · rw [h, hwhole, hself]
    have := hsome _ hprimitive
    rw [← hfull, hbuiltIn] at this
    cases this
  · exact String.toList_injective (hsegments _ hprimitive _ hpart)

/-- A declared type that is found by no built-in name. -/
theorem isRegular_of_declared (hfound : facts.IsFoundBy name)
    (hbuiltIn : Expression.builtIn? name = none) (hdefinition : facts.definition? = none) :
    facts.IsRegular 0 where
  nullable := nofun
  dictionary := nofun
  notEnum hgeneric := by simp [isGeneric, hdefinition] at hgeneric
  name hprimitive := .inr (name_of_declared hfound hbuiltIn hprimitive)

/-- A type constructed from a declared one that is found by no name of a nullable form or a
dictionary. -/
theorem isRegular_of_constructed {arity : Nat} (hfound : facts.IsFoundBy name)
    (hmark : arityMark ∉ name.toList) (harity : arityMark ∈ facts.name.toList)
    (hnullable : lastSegment name = "Nullable" → arity ≠ 1)
    (hdictionary : lastSegment name ∈ ["Dictionary", "IDictionary"] → arity ≠ 2) :
    (TypeTree.genericFacts (Expression.Scope.declaredHead facts)).IsRegular arity where
  nullable hdefinition hone :=
    absurd hone <| hnullable <|
      lastSegment_of_isFoundBy (by decide +kernel) (Option.some.inj hdefinition) hfound hmark
  -- A declared type with the full name of a dictionary would be found by the dictionary's name.
  dictionary definition hmem hdefinition htwo := by
    have hsegments : ∀ definition ∈ dictionaryDefinitions, ∃ simple ∈ ["Dictionary", "IDictionary"],
        ∀ part ∈ definition.toList :: behindDots definition.toList,
          arityMark ∈ part ∧ lastSegment (withoutArity (.ofList part)) = simple := by
      decide +kernel
    obtain ⟨simple, hsimple, hsegments⟩ := hsegments definition hmem
    have hname := lastSegment_of_isFoundBy hsegments (Option.some.inj hdefinition) hfound hmark
    exact absurd htwo (hdictionary (hname ▸ hsimple))
  notEnum _ := rfl
  name hprimitive := absurd hprimitive (arity_not_primitive _ harity)

end TypeFacts

/-! ### Denoted types -/

namespace Expression

variable {scope : Scope} {graph : TypeGraph} {type : TypeRef}

/-- A dotted name has no arity mark. -/
theorem IsDottedName.arityMark_notMem {name : List Char} (h : IsDottedName name) :
    arityMark ∉ name := by
  intro hmark
  have hcontinues := h.continues_or_dot _ hmark
  revert hcontinues
  decide

/-- A type that has no arguments and whose simple name ends its full name. -/
theorem regular_leaf {facts : TypeFacts} (hdefinition : facts.definition? = none)
    (hname : facts.isParameter ∨ facts.name = lastSegment facts.fullName) :
    (TypeTree.type facts []).Regular :=
  .type ⟨nofun, nofun, fun hgeneric => by simp [TypeFacts.isGeneric, hdefinition] at hgeneric,
    fun _ => hname⟩ nofun

/-- The names of the built-in types are simple. -/
theorem lastSegment_of_keyword {system : String} (h : system ∈ keywords.map (·.2)) :
    system = lastSegment system := by
  have hsegment : ∀ system ∈ keywords.map (·.2), system = lastSegment system := by decide +kernel
  exact hsegment system h

/-- A simple name ends any full name that is made of it. -/
theorem lastSegment_fullName (facts : TypeFacts) (h : facts.name = lastSegment facts.name) :
    facts.name = lastSegment facts.fullName := by
  rw [TypeFacts.fullName, Name.lastSegment_qualified]
  exact h

/-- A generic type is regular if its head and its arguments are. -/
theorem regular_generic {head : GenericHead} {arguments : List TypeRef}
    (hhead : (TypeTree.genericFacts head).IsRegular arguments.length)
    (harguments : ∀ argument ∈ arguments, (graph.tree argument).Regular) :
    (graph.tree (.generic head arguments)).Regular := by
  rw [TypeGraph.tree_generic]
  refine .type (by rwa [List.length_map]) ?_
  simpa only [List.forall_mem_map] using harguments

/-- The head of a generic type that has no interfaces. -/
theorem isRegular_of_interfaces_nil {head : GenericHead} (hinterfaces : head.interfaces = [])
    (hnullable : head.definition = TypeRef.nullableDefinition →
      qualified head.space? head.name = TypeRef.nullableDefinition)
    (hname : head.name = lastSegment head.name) (arity : Nat) :
    (TypeTree.genericFacts head).IsRegular arity where
  nullable hdefinition _ := ⟨hnullable (Option.some.inj hdefinition), hinterfaces⟩
  dictionary _ _ _ _ := hinterfaces
  notEnum _ := rfl
  name _ := .inr (lastSegment_fullName _ hname)

/-- The heads of collections are regular. -/
theorem isRegular_collectionHead {simple : String} (h : simple ∈ ["List", "ICollection", "HashSet"])
    (arity : Nat) :
    (TypeTree.genericFacts (Scope.collectionHead (simple ++ "`1") [collectionInterface])).IsRegular
      arity := by
  -- Collections have one type parameter and other full names than the nullable form and
  -- dictionaries.
  have hdefinition : ∀ simple ∈ ["List", "ICollection", "HashSet"],
      collectionsSpace ++ "." ++ (simple ++ "`1")
        ∉ TypeRef.nullableDefinition :: dictionaryDefinitions := by decide +kernel
  have hname : qualified (some collectionsSpace) (simple ++ "`1") ∉ primitiveNames :=
    arity_not_primitive _ (by simp [arityMark])
  constructor
  · intro hnullable
    obtain hnullable := Option.some.inj hnullable
    exact absurd (List.mem_cons.mpr (.inl hnullable)) (hdefinition _ h)
  · intro definition hmem hdictionary
    obtain rfl := Option.some.inj hdictionary
    exact absurd (List.mem_cons_of_mem _ hmem) (hdefinition _ h)
  · exact fun _ => rfl
  · exact fun hprimitive => absurd hprimitive hname

/-- The heads of dictionaries are regular. -/
theorem isRegular_dictionaryHead {simple : String} (h : simple ∈ ["Dictionary", "IDictionary"])
    (arity : Nat) :
    (TypeTree.genericFacts (Scope.collectionHead (simple ++ "`2"))).IsRegular arity := by
  have hdefinition : ∀ simple ∈ ["Dictionary", "IDictionary"],
      collectionsSpace ++ "." ++ (simple ++ "`2") ≠ TypeRef.nullableDefinition := by
    decide +kernel
  have hname : ∀ simple ∈ ["Dictionary", "IDictionary"],
      simple ++ "`2" = lastSegment (simple ++ "`2") := by decide +kernel
  exact isRegular_of_interfaces_nil rfl (absurd · (hdefinition _ h)) (hname _ h) arity

/-- The head of the box is regular. -/
theorem isRegular_boxHead (settings : Settings) (arity : Nat) :
    (TypeTree.genericFacts (Scope.boxHead settings)).IsRegular arity := by
  refine isRegular_of_interfaces_nil rfl (fun hdefinition => ?_)
    (Name.lastSegment_lastSegment _).symm arity
  have hbox : settings.boxDefinition = TypeRef.nullableDefinition := hdefinition
  simp only [Scope.boxHead, hbox]
  decide

/-- **Denoted types are regular.** The graph may give the declared types members that the catalog
of the names does not know. -/
theorem regular_of_denoted (hcatalog : scope.catalog.IsPlain)
    (hgraph : Catalog.IsPlain ⟨graph⟩)
    (hfacts : graph.entries.map (·.facts) = scope.catalog.graph.entries.map (·.facts))
    (h : Denoted scope type) : (graph.tree type).Regular := by
  have hnullable {inner : TypeRef} (ih : (graph.tree inner).Regular) :
      (graph.tree (.nullable inner)).Regular :=
    regular_generic (isRegular_of_interfaces_nil rfl (fun _ => rfl) (by decide) _)
      (by simpa using ih)
  induction h with
  | nullable _ ih => exact hnullable ih
  | array _ ih => exact .array ih
  | @name name arguments type hname _ hresolved ih =>
    cases hresolved with
    | parameter => exact regular_leaf rfl (.inl rfl)
    | system hsystem =>
      exact regular_leaf rfl (.inr (lastSegment_fullName _ (lastSegment_of_keyword hsystem)))
    | named =>
      refine regular_leaf rfl (.inr (lastSegment_fullName _ ?_))
      exact (Name.lastSegment_lastSegment _).symm
    | nullable harguments =>
      subst harguments
      exact hnullable (ih _ (List.mem_singleton_self _))
    | collection hsimple => exact regular_generic (isRegular_collectionHead hsimple _) ih
    | dictionary hsimple => exact regular_generic (isRegular_dictionaryHead hsimple _) ih
    | box => exact regular_generic (isRegular_boxHead _ _) ih
    | @declared place hbuiltIn hplace =>
      obtain ⟨entry, hentry, hfound⟩ := Catalog.find?_eq_some hplace
      -- The graph has an entry with the same facts at the same place.
      have hsame : (graph.entries.map (·.facts))[place]? = some entry.facts := by
        rw [hfacts, List.getElem?_map, hentry, Option.map_some]
      rw [List.getElem?_map] at hsame
      obtain ⟨filled, hfilled, hsame⟩ := Option.map_eq_some_iff.mp hsame
      have hplain := hgraph filled (List.mem_of_getElem? hfilled)
      rw [TypeGraph.tree_declared hfilled hplain]
      refine .type (TypeFacts.isRegular_of_declared ?_ hbuiltIn hplain.definition) nofun
      rwa [hsame]
    | @constructed place hplace hne harity hnullable' hdictionary =>
      obtain ⟨entry, hentry, hfound⟩ := Catalog.find?_eq_some hplace
      have hplain := hcatalog entry (List.mem_of_getElem? hentry)
      rw [Catalog.factsAt_of_getElem? hentry] at harity ⊢
      refine regular_generic (TypeFacts.isRegular_of_constructed hfound hname.arityMark_notMem ?_
        hnullable' hdictionary) ih
      refine hplain.arity fun hparameters => hne ?_
      rw [hparameters, List.length_nil] at harity
      exact List.length_eq_zero_iff.mp harity.symm

end Expression

end TypeExport
