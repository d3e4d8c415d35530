import TypeExport.Proofs.Reflection.Nesting
import TypeExport.Proofs.Shape.Rules

/-!
# Shapes of nested types

The rules fail for a type that is met again inside its own parts.  In a flat graph there is none, so
they fail only on account of a marker.

* `TypeTree.classify_node` — the shape of a type from those of the types right below it.
* `ClassifyError.IsMetadata`, `failsOnly_classifyStep` — one step adds no other error.
* `TypeGraph.failsOnly_classify` — a type of a flat graph has a shape or a malformed marker.
-/

namespace TypeExport

/-- A node is classified from the shapes below it. -/
theorem TypeTree.classify_node (settings : Settings) (facts : TypeFacts)
    (element? : Option TypeTree) (arguments : List TypeTree) :
    (node facts element? arguments).classify settings
      = classifyStep settings (node facts element? arguments) (element?.map (classify settings))
        (arguments.map (classify settings)) := by
  cases element? with
  | none => simp only [node, classify, classifyAll_eq_map, Option.map_none]
  | some element => simp only [node, classify, classifyAll_eq_map, Option.map_some]

/-! ### Errors of the rules -/

/-- The error is a malformed marker, and not a repetition. -/
def ClassifyError.IsMetadata : ClassifyError → Prop
  | metadata _ => True
  | cycle _ => False

open Except (FailsOnly failsOnly_ok)

variable {settings : Settings} {tree : TypeTree} {element? : Option (Except ClassifyError Shape)}
  {arguments : List (Except ClassifyError Shape)}

/-- The metadata of a type fails only as metadata. -/
theorem failsOnly_readTypeMetadata (settings : Settings) (tree : TypeTree) :
    (readTypeMetadata settings tree).FailsOnly ClassifyError.IsMetadata :=
  FailsOnly.mapError fun _ _ => trivial

/-- A type without parts fails only because of metadata. -/
theorem failsOnly_classifyPlain (settings : Settings) (tree : TypeTree) :
    (classifyPlain settings tree).FailsOnly ClassifyError.IsMetadata := by
  have hmetadata := failsOnly_readTypeMetadata settings tree
  simp only [classifyPlain, classifyEnum]
  split_ifs
  · exact hmetadata.bind fun _ => failsOnly_ok _
  · refine hmetadata.bind fun metadata => ?_
    cases metadata.domain? <;> exact failsOnly_ok _
  · exact failsOnly_ok _
  · exact hmetadata.bind fun _ => failsOnly_ok _
  · exact hmetadata.bind fun _ => failsOnly_ok _
  · exact failsOnly_ok _

/-- A generic type fails only because of metadata if its arguments do. -/
theorem failsOnly_classifyGeneric? {outcome : Except ClassifyError Shape}
    (harguments : ∀ argument ∈ arguments, argument.FailsOnly ClassifyError.IsMetadata)
    (h : classifyGeneric? settings tree.facts arguments = some outcome) :
    outcome.FailsOnly ClassifyError.IsMetadata := by
  simp only [classifyGeneric?] at h
  split at h
  -- The rules for generic types only put together what the arguments gave.
  · obtain rfl := Option.some.inj h
    refine (harguments _ (by simp)).bind fun _ => ?_
    exact (harguments _ (by simp)).bind fun _ => failsOnly_ok _
  · split at h
    · obtain rfl := Option.some.inj h
      exact (harguments _ (by simp)).bind fun _ => failsOnly_ok _
    · split at h
      · obtain rfl := Option.some.inj h
        exact (FailsOnly.mapM harguments).bind fun _ => failsOnly_ok _
      · cases h

/-- Any other type fails only because of metadata if its parts do. -/
theorem failsOnly_classifyOther
    (helement : ∀ element ∈ element?, element.FailsOnly ClassifyError.IsMetadata)
    (harguments : ∀ argument ∈ arguments, argument.FailsOnly ClassifyError.IsMetadata) :
    (classifyOther settings tree element? arguments).FailsOnly ClassifyError.IsMetadata := by
  unfold classifyOther
  split
  · next inner hinner =>
    obtain ⟨-, rfl⟩ := nullableArgument?_eq_some_iff.mp hinner
    exact (harguments _ (by simp)).bind fun _ => failsOnly_ok _
  · split
    · exact (helement _ rfl).bind fun _ => failsOnly_ok _
    · split
      · next outcome _ hgeneric => exact failsOnly_classifyGeneric? harguments hgeneric
      · exact failsOnly_classifyPlain settings tree

/-- The rules fail on account of a marker if those for the parts of the type do. -/
theorem failsOnly_classifyStep
    (helement : ∀ element ∈ element?, element.FailsOnly ClassifyError.IsMetadata)
    (harguments : ∀ argument ∈ arguments, argument.FailsOnly ClassifyError.IsMetadata) :
    (classifyStep settings tree element? arguments).FailsOnly ClassifyError.IsMetadata := by
  by_cases hname : tree.facts.fullName ∈ primitiveNames
  · cases hnullable : nullableArgument? tree.facts arguments with
    | none =>
      rw [classifyStep_of_primitive hname hnullable]
      exact failsOnly_ok _
    | some inner =>
      obtain ⟨-, rfl⟩ := nullableArgument?_eq_some_iff.mp hnullable
      have hinner := harguments inner (List.mem_singleton_self _)
      -- Some of the primitive names are looked for before the nullable form, the others behind it.
      have hrules : classifyStep settings tree element? [inner]
            = .ok (.primitive (primitiveKind tree.facts.fullName) tree.facts.name) ∨
          classifyStep settings tree element? [inner] = (do return .nullable (← inner)) :=
        classifyStep_of_nullable hnullable
      rcases hrules with hrule | hrule
      · rw [hrule]
        exact failsOnly_ok _
      · rw [hrule]
        exact hinner.bind fun _ => failsOnly_ok _
  · rw [classifyStep_of_not_primitive settings tree element? arguments hname]
    exact failsOnly_classifyOther helement harguments

/-- **No repetitions.** A type of a flat graph has a shape or a malformed marker. -/
theorem TypeGraph.failsOnly_classify {graph : TypeGraph} {type : TypeRef} (hflat : graph.IsFlat)
    (hhas : graph.Has type) (settings : Settings) :
    (graph.classify settings type).FailsOnly ClassifyError.IsMetadata := by
  -- The induction is on what types are built from: a flat graph has no type inside itself.
  induction hflat.acc type with
  | intro type _ ih =>
    have hpart {part : TypeRef} (hbuilt : graph.BuiltFrom part type) :
        (graph.classify settings part).FailsOnly ClassifyError.IsMetadata :=
      ih part hbuilt (hhas.part hflat hbuilt)
    rw [classify, tree_eq_node hflat hhas, TypeTree.classify_node]
    refine failsOnly_classifyStep (fun outcome houtcome => ?_) fun outcome houtcome => ?_
    · rw [Option.map_map] at houtcome
      obtain ⟨element, helement, rfl⟩ := Option.map_eq_some_iff.mp houtcome
      exact hpart (.element helement)
    · rw [List.map_map] at houtcome
      obtain ⟨argument, hargument, rfl⟩ := List.mem_map.mp houtcome
      exact hpart (.argument hargument)

end TypeExport
