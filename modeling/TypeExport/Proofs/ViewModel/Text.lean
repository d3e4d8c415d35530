import TypeExport.Proofs.Expression.DeclaredNames
import TypeExport.Proofs.TypeScript.Tables
import TypeExport.ViewModel

/-!
# The text of a view model

A view model is declared under the name of its type, without the number of its type parameters but
with their names, and has a line for each property.

* `parameterList` — the names of type parameters behind a name.
* `Catalog.withoutArity_arityName`, `Catalog.arityMark_mem_arityName_iff` — the name that a catalog
  gives to a type.
* `TypeTree.declaredName_type` — the name in the declaration.
* `of_viewModel_eq_ok` — the text of a view model.
-/

namespace TypeExport

open Name (arityMark withoutArity)
open TypeScript (IsIdentifier isIdentifierChar)

/-! ### Names with the number of type parameters -/

/-- No other characters stand in an identifier. -/
theorem TypeScript.IsIdentifier.notMem {name : String} (h : IsIdentifier name) {c : Char}
    (hc : isIdentifierChar c = false) : c ∉ name.toList := by
  intro hmem
  have hchar := List.all_eq_true.mp h.1 c hmem
  rw [hc] at hchar
  exact Bool.false_ne_true hchar

namespace Catalog

variable {name : String}

/-- Without parameters, a name has no arity. -/
theorem arityName_nil (name : String) : arityName name [] = name := rfl

/-- With parameters, a name has their number behind a mark. -/
theorem arityName_of_ne_nil {parameters : List String} (h : parameters ≠ []) (name : String) :
    arityName name parameters = name ++ arityMark.toString ++ toString parameters.length := by
  rw [arityName, if_neg (by simpa using h)]

/-- The arity that was added is taken away again. -/
theorem withoutArity_arityName (h : arityMark ∉ name.toList) (parameters : List String) :
    withoutArity (arityName name parameters) = name := by
  by_cases hparameters : parameters = []
  · rw [hparameters, arityName_nil, Name.withoutArity_of_notMem h]
  · rw [arityName_of_ne_nil hparameters, Name.withoutArity_append h]

/-- The name of a type has the mark exactly if the type has parameters. -/
theorem arityMark_mem_arityName_iff (h : arityMark ∉ name.toList) (parameters : List String) :
    arityMark ∈ (arityName name parameters).toList ↔ parameters ≠ [] := by
  by_cases hparameters : parameters = []
  · simp [hparameters, arityName_nil, h]
  · simp [arityName_of_ne_nil hparameters, hparameters]

/-- What stands in the name of a type: the given name, and a mark and digits behind it. -/
theorem mem_arityName {parameters : List String} {c : Char}
    (h : c ∈ (arityName name parameters).toList) :
    c ∈ name.toList ∨ c = arityMark ∨ isIdentifierChar c := by
  -- A type without parameters has no mark.
  by_cases hparameters : parameters = []
  · rw [hparameters, arityName_nil] at h
    exact .inl h
  · rw [arityName_of_ne_nil hparameters, String.toList_append, String.toList_append] at h
    obtain h | hdigit := List.mem_append.mp h
    · obtain hname | hmark := List.mem_append.mp h
      · exact .inl hname
      · exact .inr (.inl (by simpa using hmark))
    · rw [TypeScript.toList_toString] at hdigit
      obtain ⟨digit, hlt, rfl⟩ := Text.exists_digit_of_mem_toDigits (by omega) hdigit
      exact .inr (.inr (TypeScript.isIdentifierChar_digitChar digit (by omega)).1)

end Catalog

/-! ### Declared names -/

/-- The names of type parameters, as they stand behind the name of a type. -/
def parameterList (parameters : List String) : String :=
  if parameters.isEmpty then "" else "<" ++ ", ".intercalate parameters ++ ">"

/-- A type that is not built from other types is declared under its given name, with its type
parameters. -/
theorem TypeTree.declaredName_type {facts : TypeFacts} {name : String}
    (hfacts : facts.name = Catalog.arityName name facts.parameters)
    (hname : arityMark ∉ name.toList) :
    (TypeTree.type facts []).declaredName = name ++ parameterList facts.parameters := by
  have hplain : withoutArity facts.name = name := by
    rw [hfacts, Catalog.withoutArity_arityName hname]
  unfold declaredName parameterList
  simp only [TypeTree.facts, TypeTree.arguments, List.map_nil]
  by_cases hparameters : facts.parameters = []
  · have heq : facts.name = name := by rw [hfacts, hparameters, Catalog.arityName_nil]
    simp [hparameters, heq]
  · have hne : facts.parameters.isEmpty = false := by simpa using hparameters
    simp [hne, genericDisplay, hplain, String.append_assoc]

/-! ### Texts -/

/-- A view model with the lines of its properties. -/
def viewModelText (comment written : String) (lines : List String) : String :=
  comment ++ "export type " ++ written ++ " = \x7b\n" ++ "\n".intercalate lines ++ "\x7d;\n"

/-- The line of a member. -/
def memberLine (comment memberName : String) (required : Bool) (type : String) : String :=
  comment ++ "    " ++ memberName ++ (if required then "" else "?") ++ ": " ++ type ++ ";\n"

/-- A view model consists of a comment, the declared name of the type and the lines of its
properties, each below a comment. -/
theorem of_viewModel_eq_ok {graph : TypeGraph} {settings : Settings}
    {documentation : Documentation} {strict : Bool} {unit : List TypeRef} {type : TypeRef}
    {declaration : Declaration}
    (h : (viewModel graph settings documentation strict unit type).outcome = .ok declaration) :
    ∃ lines,
      declaration.text
        = viewModelText (typeScriptComment (documentation.typeSummary? (graph.facts type).fullName))
          (graph.tree type).declaredName lines ∧
      ∀ property ∈ graph.properties type, ∃ declared,
        (propertyType graph settings .typescript strict (property.isRequired graph)
          property.type).outcome = .ok declared ∧
        memberLine
          (typeScriptComment
            (documentation.memberSummary? (graph.facts type).fullName property.name) 4)
          (Name.camelCase property.name) (property.isRequired graph) declared.text ∈ lines := by
  simp only [viewModel, Report.outcome_bind, Report.outcome_mapM, Except.bind_eq_ok_iff] at h
  obtain ⟨lines, hlines, -, -, h⟩ := h
  obtain rfl := Except.ok.inj h
  refine ⟨lines.map (·.text), rfl, fun property hproperty => ?_⟩
  -- The properties are sorted, and each of them still has its line.
  have hordered :=
    (Name.mem_sortByName (fun property : Property => property.name) _ _).mpr hproperty
  obtain ⟨line, hline⟩ := Except.exists_mapM_eq_ok_iff.mp ⟨lines, hlines⟩ property hordered
  have hmem : line ∈ lines :=
    (Except.mem_of_mapM_eq_ok hlines line).mpr ⟨property, hordered, hline⟩
  simp only [viewModelProperty, Report.outcome_bind, Except.bind_eq_ok_iff] at hline
  obtain ⟨declared, hdeclared, hline⟩ := hline
  obtain rfl := Except.ok.inj hline
  exact ⟨declared, hdeclared, List.mem_map_of_mem (f := (·.text)) hmem⟩

end TypeExport
