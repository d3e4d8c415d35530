import TypeExport.Expression.Resolve
import TypeExport.Proofs.Name.Basic
import TypeExport.Proofs.Outcome
import Mathlib.Tactic.Common

/-!
# Shapes of constructed types

The types that type expressions build on the way have the shape that their form says: no rule that
is tried earlier applies to them.

* `primitiveNames` — the full names that the first rules look for.
* `classifyOther` — the rules that are left for any other name (`classifyStep_of_not_primitive`).
* `arity_not_primitive`, `brackets_not_primitive` — generic types and arrays have other names.
* `classify_nullable`, `classify_array`, `classify_collection`, `classify_dictionary` — the shape
  of a constructed type comes from the shapes of its parts.
* `classify_box`, `classify_parameter` — the box of the default settings and open type parameters.
-/

namespace TypeExport

open Name (arityMark)

/-- The full names of the types that are primitive. -/
def primitiveNames : List String :=
  ["System.Boolean", "System.String", "System.Guid", "System.DateTime", "System.DateTimeOffset"]
    ++ numberTypes

/-- The rules that do not look for a primitive name. -/
def classifyOther (settings : Settings) (tree : TypeTree)
    (element? : Option (Except ClassifyError Shape))
    (arguments : List (Except ClassifyError Shape)) : Except ClassifyError Shape :=
  match nullableArgument? tree.facts arguments with
  | some inner => do return .nullable (← inner)
  | none =>
    match tree.facts.isArray, element? with
    | true, some element => do return .array (← element)
    | _, _ =>
      match tree.facts.isGeneric, classifyGeneric? settings tree.facts arguments with
      | true, some outcome => outcome
      | _, _ => classifyPlain settings tree

/-- The rules that are left for a type without a primitive name. -/
theorem classifyStep_of_not_primitive (settings : Settings) (tree : TypeTree)
    (element? : Option (Except ClassifyError Shape)) (arguments : List (Except ClassifyError Shape))
    (h : tree.facts.fullName ∉ primitiveNames) :
    classifyStep settings tree element? arguments
      = classifyOther settings tree element? arguments := by
  simp only [primitiveNames, List.cons_append, List.nil_append, List.mem_cons, not_or] at h
  obtain ⟨hbool, hstring, hguid, hdate, hoffset, hnumber⟩ := h
  simp only [classifyStep, hbool, hstring, hguid, hdate, hoffset, hnumber, beq_iff_eq,
    List.contains_eq_mem, decide_false, Bool.false_eq_true, Bool.or_eq_true, or_self, if_false]
  rfl

/-! ### Full names that are not primitive -/

/-- No primitive name has an arity. -/
theorem arityMark_notMem_of_primitive {full : String} (h : full ∈ primitiveNames) :
    arityMark ∉ full.toList := by
  have hnone : ∀ full ∈ primitiveNames, arityMark ∉ full.toList := by decide +kernel
  exact hnone full h

/-- Whatever its namespace, a type with an arity is not primitive. -/
theorem arity_not_primitive (space? : Option String) {name : String}
    (h : arityMark ∈ name.toList) : qualified space? name ∉ primitiveNames :=
  fun hprimitive => arityMark_notMem_of_primitive hprimitive (Name.mem_qualified space? h)

/-- No primitive name ends in the brackets of an array. -/
theorem brackets_not_primitive (space? : Option String) (name : String) :
    qualified space? (name ++ "[]") ∉ primitiveNames := by
  have hnone : ∀ primitive ∈ primitiveNames, primitive.toList.getLast? ≠ some ']' := by
    decide +kernel
  intro h
  refine hnone _ h ?_
  rw [Name.qualified_append, String.toList_append]
  simp

/-! ### The shapes of constructed types -/

/-- A nullable type has the nullable shape of its only argument. -/
theorem classify_nullable (graph : TypeGraph) (settings : Settings) (inner : TypeRef) :
    graph.classify settings (.nullable inner)
      = (graph.classify settings inner).map .nullable := by
  have hname : qualified (some "System") "Nullable`1" ∉ primitiveNames :=
    arity_not_primitive _ (by decide)
  simp only [TypeGraph.classify, TypeGraph.tree, TypeRef.nullable, TypeRef.tree, TypeRef.trees,
    TypeTree.classify, TypeTree.classifyAll]
  exact classifyStep_of_not_primitive settings _ _ _ hname

/-- An array has the array shape of its elements. -/
theorem TypeTree.classify_arrayOf (settings : Settings) (element : TypeTree) :
    (arrayOf element).classify settings = (element.classify settings).map .array := by
  simp only [arrayOf, classify, classifyAll]
  exact classifyStep_of_not_primitive settings _ _ _ (brackets_not_primitive _ _)

/-- An array has the array of the shape of its element. -/
theorem classify_array (graph : TypeGraph) (settings : Settings) (element : TypeRef) :
    graph.classify settings (.array element) = (graph.classify settings element).map .array :=
  TypeTree.classify_arrayOf settings (graph.tree element)

/-- A type constructed from a collection of the collections namespace is a collection. -/
theorem classify_collection (graph : TypeGraph) (settings : Settings) (name : String)
    (hname : name ∈ ["List", "ICollection", "HashSet"]) (element : TypeRef) :
    graph.classify settings
        (.generic (Expression.Scope.collectionHead (name ++ "`1") [collectionInterface]) [element])
      = (graph.classify settings element).map .collection := by
  have hprimitive : qualified (some collectionsSpace) (name ++ "`1") ∉ primitiveNames :=
    arity_not_primitive _ (by simp [arityMark])
  simp only [TypeGraph.classify, TypeGraph.tree, TypeRef.tree, TypeRef.trees, TypeTree.classify,
    TypeTree.classifyAll]
  refine (classifyStep_of_not_primitive settings _ _ _ ?_).trans ?_
  · exact hprimitive
  simp only [List.mem_cons, List.not_mem_nil, or_false] at hname
  rcases hname with rfl | rfl | rfl <;> rfl

/-- A type constructed from a dictionary of the collections namespace is a dictionary. -/
theorem classify_dictionary (graph : TypeGraph) (settings : Settings) (name : String)
    (hname : name ∈ ["Dictionary", "IDictionary"]) (key value : TypeRef) :
    graph.classify settings (.generic (Expression.Scope.collectionHead (name ++ "`2")) [key, value])
      = (do
        return .dictionary (← graph.classify settings key) (← graph.classify settings value)) := by
  have hprimitive : qualified (some collectionsSpace) (name ++ "`2") ∉ primitiveNames :=
    arity_not_primitive _ (by simp [arityMark])
  simp only [TypeGraph.classify, TypeGraph.tree, TypeRef.tree, TypeRef.trees, TypeTree.classify,
    TypeTree.classifyAll]
  refine (classifyStep_of_not_primitive settings _ _ _ ?_).trans ?_
  · exact hprimitive
  simp only [List.mem_cons, List.not_mem_nil, or_false] at hname
  rcases hname with rfl | rfl <;> rfl

/-- What the default settings say of the box. -/
def boxFacts : TypeFacts where
  name := "ValidPropertiesBox`1"
  space? := some "Rock.ViewModels.Utility"
  definition? := some "Rock.ViewModels.Utility.ValidPropertiesBox`1"

/-- The head of the box has the facts of the box. -/
theorem genericFacts_boxHead : TypeTree.genericFacts (Expression.Scope.boxHead {}) = boxFacts := rfl

/-- The box of the default settings is a container. -/
theorem classify_box (graph : TypeGraph) (element : TypeRef) :
    graph.classify {} (.generic (Expression.Scope.boxHead {}) [element])
      = (graph.classify {} element).map fun shape => .container "ValidPropertiesBox" [shape] := by
  have hprimitive : boxFacts.fullName ∉ primitiveNames := arity_not_primitive _ (by decide)
  have hcontainer : Name.withoutArity (Name.lastSegment (boxFacts.definition?.getD ""))
      = "ValidPropertiesBox" := by decide
  -- No rule before that of the box applies to its full name.
  have hgeneric (outcome : Except ClassifyError Shape) : classifyGeneric? {} boxFacts [outcome]
      = some (do return .container "ValidPropertiesBox" (← [outcome].mapM id)) := by
    rw [← hcontainer]
    rfl
  simp only [TypeGraph.classify, TypeGraph.tree, TypeRef.tree, TypeRef.trees, TypeTree.classify,
    TypeTree.classifyAll, genericFacts_boxHead]
  refine (classifyStep_of_not_primitive {} _ _ _ ?_).trans ?_
  · exact hprimitive
  generalize TypeTree.classify {} _ = outcome
  simp only [classifyOther, TypeTree.facts, hgeneric]
  cases outcome <;> rfl

/-- An open type parameter is one, unless it has the name of a primitive type. -/
theorem classify_parameter (graph : TypeGraph) (settings : Settings) (name : String)
    (hname : name ∉ primitiveNames) :
    graph.classify settings (.parameter name) = .ok (.parameter name) := by
  simp only [TypeGraph.classify, TypeGraph.tree, TypeRef.tree, TypeTree.classify,
    TypeTree.classifyAll]
  exact classifyStep_of_not_primitive settings _ _ _ hname

end TypeExport
