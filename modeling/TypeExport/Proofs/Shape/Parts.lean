import TypeExport.Proofs.Reflection.Parts
import TypeExport.Proofs.Shape.Rules

/-!
# Parts of a shape

What a shape is made of, and where it comes from: every part of the shape of a type is the shape of
a part of the type.

* `Shape.parts` — a shape with all the shapes that it is made of.
* `Shape.children` — the parts right below a shape (`Shape.mem_parts_iff`).
* `Classified.children` — the rules take them from the outcomes for the parts of the type.
* `TypeTree.exists_part_of_classify` — every part is the shape of a part of the type.
-/

namespace TypeExport

namespace Shape

mutual

/-- A shape with all the shapes that it is made of. -/
def parts : Shape → List Shape
  | nullable inner => nullable inner :: parts inner
  | array element => array element :: parts element
  | collection element => collection element :: parts element
  | dictionary key value => dictionary key value :: (parts key ++ parts value)
  | container name arguments => container name arguments :: partsAll arguments
  | primitive kind typeName => [primitive kind typeName]
  | globalEnum name space path metadata => [globalEnum name space path metadata]
  | domainEnum name space domain path metadata => [domainEnum name space domain path metadata]
  | entity name space metadata => [entity name space metadata]
  | viewModel name space path metadata => [viewModel name space path metadata]
  | parameter name => [parameter name]
  | unsupported displayName => [unsupported displayName]

/-- The parts of several shapes. -/
def partsAll : List Shape → List Shape
  | [] => []
  | shape :: rest => parts shape ++ partsAll rest

end

/-- The shapes right below a shape. -/
def children : Shape → List Shape
  | nullable inner => [inner]
  | array element | collection element => [element]
  | dictionary key value => [key, value]
  | container _ arguments => arguments
  | primitive _ _ | globalEnum _ _ _ _ | domainEnum _ _ _ _ _ | entity _ _ _ | viewModel _ _ _ _
  | parameter _ | unsupported _ => []

/-- The parts of several shapes are those of each. -/
theorem mem_partsAll_iff {part : Shape} {shapes : List Shape} :
    part ∈ partsAll shapes ↔ ∃ shape ∈ shapes, part ∈ shape.parts := by
  induction shapes with
  | nil => simp [partsAll]
  | cons shape rest ih => simp [partsAll, ih]

/-- A part is the shape itself or a part of a shape right below it. -/
theorem mem_parts_iff {part shape : Shape} :
    part ∈ shape.parts ↔ part = shape ∨ ∃ child ∈ shape.children, part ∈ child.parts := by
  cases shape <;> simp [parts, children, mem_partsAll_iff]

end Shape

/-- What is right below a shape comes from the outcomes for the element type and the arguments. -/
theorem Classified.children {settings : Settings} {tree : TypeTree}
    {element? : Option (Except ClassifyError Shape)}
    {arguments : List (Except ClassifyError Shape)} {shape child : Shape}
    (h : Classified settings tree element? arguments shape) (hchild : child ∈ shape.children) :
    element? = some (.ok child) ∨ .ok child ∈ arguments := by
  cases h with
  | primitive => cases hchild
  | nullable hinner =>
    -- The nullable form passes the shape of its argument on.
    obtain ⟨-, rfl⟩ := nullableArgument?_eq_some_iff.mp hinner
    obtain rfl := List.mem_singleton.mp hchild
    exact .inr (List.mem_singleton_self _)
  | array _ helement =>
    obtain rfl := List.mem_singleton.mp hchild
    exact .inl helement
  | dictionary _ _ _ harguments =>
    right
    rw [harguments]
    simpa [Shape.children] using hchild
  | collection _ _ _ harguments =>
    obtain rfl := List.mem_singleton.mp hchild
    right
    simp [harguments]
  | container _ _ _ hshapes =>
    obtain ⟨outcome, hmem, rfl⟩ := (Except.mem_of_mapM_eq_ok hshapes child).mp hchild
    exact .inr hmem
  | plain _ _ _ hplain => cases hplain <;> cases hchild

namespace TypeTree

variable {settings : Settings}

mutual

/-- **Where parts come from.** Every part of the shape of a type is the shape of a part of the
type. -/
theorem exists_part_of_classify (tree : TypeTree) {shape part : Shape}
    (h : tree.classify settings = .ok shape) (hpart : part ∈ shape.parts) :
    ∃ source ∈ tree.parts, source.classify settings = .ok part := by
  cases tree with
  | type facts arguments =>
    obtain rfl | ⟨child, hchild, hpart⟩ := Shape.mem_parts_iff.mp hpart
    · exact ⟨_, List.mem_cons_self, h⟩
    · obtain helement | hargument := (classified_of_classifyStep h).children hchild
      -- This type has no element.
      · cases helement
      · obtain ⟨source, hsource, hclassify⟩ := exists_part_of_classifyAll arguments hargument hpart
        exact ⟨source, List.mem_cons_of_mem _ hsource, hclassify⟩
  | withElement facts element arguments =>
    obtain rfl | ⟨child, hchild, hpart⟩ := Shape.mem_parts_iff.mp hpart
    · exact ⟨_, List.mem_cons_self, h⟩
    · obtain helement | hargument := (classified_of_classifyStep h).children hchild
      · obtain ⟨source, hsource, hclassify⟩ :=
          exists_part_of_classify element (Option.some.inj helement) hpart
        exact ⟨source, List.mem_cons_of_mem _ (List.mem_append_left _ hsource), hclassify⟩
      · obtain ⟨source, hsource, hclassify⟩ := exists_part_of_classifyAll arguments hargument hpart
        exact ⟨source, List.mem_cons_of_mem _ (List.mem_append_right _ hsource), hclassify⟩
  | repeated facts => cases h

/-- The parts of the shapes of several trees come from parts of the trees. -/
theorem exists_part_of_classifyAll (trees : List TypeTree) {shape part : Shape}
    (h : .ok shape ∈ classifyAll settings trees) (hpart : part ∈ shape.parts) :
    ∃ source ∈ partsAll trees, source.classify settings = .ok part := by
  cases trees with
  | nil => cases h
  | cons tree rest =>
    obtain hfirst | hrest := List.mem_cons.mp h
    · obtain ⟨source, hsource, hclassify⟩ := exists_part_of_classify tree hfirst.symm hpart
      exact ⟨source, List.mem_append_left _ hsource, hclassify⟩
    · obtain ⟨source, hsource, hclassify⟩ := exists_part_of_classifyAll rest hrest hpart
      exact ⟨source, List.mem_append_right _ hsource, hclassify⟩

end

end TypeTree

end TypeExport
