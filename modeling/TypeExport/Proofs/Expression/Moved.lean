import TypeExport.Proofs.Expression.Denoted

/-!
# Moved types

Declared types are referred to by their places.  Where the same types stand at other places, each
name finds its type at the new place, and expressions denote the same types with the references
moved along.

* `TypeRef.moved`, `TypeEntry.moved` — a type and an entry with their references moved.
* `Scope.MovesTo` — two scopes with the same types at different places.
* `Scope.MovesTo.parse` — what an expression denotes moves along.
-/

namespace TypeExport

namespace TypeRef

mutual

/-- The type with all references to declared types moved. -/
def moved (move : Nat → Nat) : TypeRef → TypeRef
  | declared place => declared (move place)
  | named name space? => named name space?
  | parameter name => parameter name
  | array element => array (moved move element)
  | generic head arguments => generic head (allMoved move arguments)

/-- The types with all references to declared types moved. -/
def allMoved (move : Nat → Nat) : List TypeRef → List TypeRef
  | [] => []
  | type :: rest => moved move type :: allMoved move rest

end

/-- Several types are moved one by one. -/
theorem allMoved_eq_map (move : Nat → Nat) (types : List TypeRef) :
    allMoved move types = types.map (moved move) := by
  induction types with
  | nil => rfl
  | cons type rest ih => rw [allMoved, ih, List.map_cons]

end TypeRef

/-- The property with its type moved. -/
def Property.moved (move : Nat → Nat) (property : Property) : Property :=
  { property with type := property.type.moved move }

/-- The entry with all references to declared types moved. -/
def TypeEntry.moved (move : Nat → Nat) (entry : TypeEntry) : TypeEntry where
  facts := entry.facts
  element? := entry.element?.map (TypeRef.moved move)
  arguments := entry.arguments.map (TypeRef.moved move)
  properties := entry.properties.map (Property.moved move)
  fields := entry.fields
  constants := entry.constants

namespace Expression

/-- A generic name resolves to the nullable type, to its head, or not at all. -/
theorem Scope.resolveGeneric_eq (scope : Scope) (name : String) (arguments : List TypeRef) :
    scope.resolveGeneric name arguments
      = if Name.lastSegment name = "Nullable" ∧ arguments.length = 1 then
          .ok (.generic nullableHead arguments)
        else
          match scope.genericHead? name arguments.length with
          | some head => .ok (.generic head arguments)
          | none => .error (.unknownGeneric name arguments.length) := by
  unfold resolveGeneric
  split
  · next inner hname =>
    exact (if_pos ⟨hname, rfl⟩).symm
  · next arguments _ _ hne =>
    have hother : ¬ (Name.lastSegment name = "Nullable" ∧ arguments.length = 1) := by
      rintro ⟨hname, hone⟩
      obtain ⟨inner, rfl⟩ := List.length_eq_one_iff.mp hone
      exact hne inner hname rfl
    exact (if_neg hother).symm

/-- The scopes differ in nothing but the places of the declared types. -/
structure Scope.MovesTo (move : Nat → Nat) (scope scope' : Scope) : Prop where
  parameters : scope'.parameters = scope.parameters
  settings : scope'.settings = scope.settings
  find (name : String) : IsDottedName name.toList →
    scope'.catalog.find? name = (scope.catalog.find? name).map move
  facts (name : String) (place : Nat) : scope.catalog.find? name = some place →
    scope'.catalog.graph.factsAt (move place) = scope.catalog.graph.factsAt place

namespace Scope.MovesTo

variable {move : Nat → Nat} {scope scope' : Scope} {name : String}

/-- A name without arguments stands for the same type, at its new place. -/
theorem resolvePlain (h : scope.MovesTo move scope') (hname : IsDottedName name.toList) :
    scope'.resolvePlain name = (scope.resolvePlain name).map (TypeRef.moved move) := by
  unfold Scope.resolvePlain
  rw [h.parameters, h.find name hname]
  -- Only a declared type moves; whatever is tried before it gives the same on both sides.
  by_cases hparameter : scope.parameters.contains name = true
  · rw [if_pos hparameter, if_pos hparameter]
    rfl
  · rw [if_neg hparameter, if_neg hparameter]
    cases keywords.lookup name with
    | some system => rfl
    | none =>
      cases (systemName? name).filter fun rest => (keywords.map (·.2)).contains rest with
      | some system => rfl
      | none =>
        cases hfind : scope.catalog.find? name with
        | none =>
          dsimp only [Option.map_none]
          by_cases hdot : name.toList.contains '.' = true
          · rw [if_pos hdot]
            rfl
          · rw [if_neg hdot]
            rfl
        | some place =>
          dsimp only [Option.map_some]
          rw [h.facts name place hfind]
          by_cases hplain : (scope.catalog.graph.factsAt place).parameters.isEmpty = true
          · rw [if_pos hplain, if_pos hplain]
            rfl
          · rw [if_neg hplain, if_neg hplain]
            rfl

/-- A name has the same heads in a scope whose places are moved. -/
theorem genericHead? (h : scope.MovesTo move scope') (hname : IsDottedName name.toList)
    (arity : Nat) : scope'.genericHead? name arity = scope.genericHead? name arity := by
  unfold Scope.genericHead?
  rw [h.settings, h.find name hname]
  cases hfind : scope.catalog.find? name with
  | none => rfl
  | some place =>
    dsimp only [Option.map_some]
    rw [h.facts name place hfind]

/-- A name with arguments is applied to the same arguments, moved along. -/
theorem resolveGeneric (h : scope.MovesTo move scope') (hname : IsDottedName name.toList)
    (arguments : List TypeRef) :
    scope'.resolveGeneric name (arguments.map (TypeRef.moved move))
      = (scope.resolveGeneric name arguments).map (TypeRef.moved move) := by
  rw [Scope.resolveGeneric_eq, Scope.resolveGeneric_eq, List.length_map, h.genericHead? hname]
  by_cases hnullable : Name.lastSegment name = "Nullable" ∧ arguments.length = 1
  · rw [if_pos hnullable, if_pos hnullable, ← TypeRef.allMoved_eq_map]
    rfl
  · rw [if_neg hnullable, if_neg hnullable, ← TypeRef.allMoved_eq_map]
    cases scope.genericHead? name arguments.length <;> rfl

/-- A name with moved arguments resolves to the moved type. -/
theorem resolve (h : scope.MovesTo move scope') (hname : IsDottedName name.toList)
    (arguments : List TypeRef) :
    scope'.resolve name (arguments.map (TypeRef.moved move))
      = (scope.resolve name arguments).map (TypeRef.moved move) := by
  cases arguments with
  | nil => exact h.resolvePlain hname
  | cons first others => exact h.resolveGeneric hname (first :: others)

/-- Marks do not matter to moving. -/
theorem marks (move : Nat → Nat) (marks : List Mark) (type : TypeRef) :
    marks.foldl Mark.apply (type.moved move) = (marks.foldl Mark.apply type).moved move := by
  induction marks generalizing type with
  | nil => rfl
  | cons mark marks ih =>
    cases mark with
    | question => exact ih (.nullable type)
    | brackets => exact ih (.array type)

mutual

/-- A sentence evaluates to the moved type. -/
theorem evaluate (h : scope.MovesTo move scope') (sentence : Sentence)
    (hnames : sentence.HasNames) {type : TypeRef} (hvalue : sentence.evaluate scope = .ok type) :
    sentence.evaluate scope' = .ok (type.moved move) := by
  obtain ⟨name, arguments, marks⟩ := sentence
  obtain ⟨types, htypes, head, hhead, rfl⟩ := (Sentence.evaluate_eq_ok_iff ..).mp hvalue
  refine (Sentence.evaluate_eq_ok_iff ..).mpr
    ⟨types.map (TypeRef.moved move), h.evaluateAll arguments hnames.2 htypes, head.moved move,
      ?_, ?_⟩
  · rw [h.resolve hnames.1, hhead]
    rfl
  · exact MovesTo.marks move marks head

/-- Several sentences evaluate to the moved types. -/
theorem evaluateAll (h : scope.MovesTo move scope') (sentences : List Sentence)
    (hnames : Sentence.AllHaveNames sentences) {types : List TypeRef}
    (hvalues : Sentence.evaluateAll scope sentences = .ok types) :
    Sentence.evaluateAll scope' sentences = .ok (types.map (TypeRef.moved move)) := by
  cases sentences with
  | nil =>
    obtain rfl := Except.ok.inj hvalues
    rfl
  | cons first others =>
    obtain ⟨type, htype, rest, hrest, rfl⟩ := (Sentence.evaluateAll_cons_eq_ok_iff ..).mp hvalues
    exact (Sentence.evaluateAll_cons_eq_ok_iff ..).mpr
      ⟨type.moved move, h.evaluate first hnames.1 htype, rest.map (TypeRef.moved move),
        h.evaluateAll others hnames.2 hrest, rfl⟩

end

/-- **Expressions** denote the same types, at their new places. -/
theorem parse (h : scope.MovesTo move scope') {text : String} {type : TypeRef}
    (htype : scope.parse text = .ok type) : scope'.parse text = .ok (type.moved move) := by
  obtain ⟨sentence, hderives, hvalue⟩ := (parse_eq_ok_iff scope text type).mp htype
  have hnames := sentence.hasNames_of_kinds hderives.isDottedName
  exact (parse_eq_ok_iff scope' text _).mpr ⟨sentence, hderives, h.evaluate sentence hnames hvalue⟩

end Scope.MovesTo

end Expression

end TypeExport
