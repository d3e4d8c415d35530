import TypeExport.Proofs.Shape.Constructed

/-!
# What the rules say

`classifyStep` tries its rules in order.  This file states, for each shape that it can give, which
rule gave it and which rules had been passed over before.

* `primitiveKind`, `classifyStep_of_primitive` — a primitive name decides, unless the type is a
  nullable form.
* `PlainlyClassified` — the rules behind those for generic types, with the conditions under which
  they are reached (`plainlyClassified_of_classifyPlain`).
* `Classified` — the same for all rules (`classified_of_classifyStep`, `TypeTree.classified`).
-/

namespace TypeExport

/-- The metadata of a type are read from its facts. -/
theorem Metadata.read_type_congr {tree tree' : TypeTree} (settings : Settings)
    (hfacts : tree.facts = tree'.facts) :
    Metadata.read settings (.type tree) = Metadata.read settings (.type tree') := by
  have hmarkers : (Marked.type tree).markers = (Marked.type tree').markers :=
    congrArg TypeFacts.markers hfacts
  have hliteral : (Marked.type tree).literal = (Marked.type tree').literal := by
    show "TypeHandle(" ++ Text.literal tree.facts.fullName ++ ")" = _
    rw [hfacts]
    rfl
  unfold Metadata.read optionalText requiredText Marked.find?
  rw [hmarkers, hliteral]

/-! ### Primitive names -/

/-- The kind of the primitive type with a full name. -/
def primitiveKind (fullName : String) : Primitive :=
  if fullName = "System.Boolean" then .boolean
  else if fullName ∈ numberTypes then .number
  else if fullName = "System.String" then .string
  else if fullName = "System.Guid" then .identifier
  else .timestamp

section

variable {settings : Settings} {tree : TypeTree} {element? : Option (Except ClassifyError Shape)}
  {arguments : List (Except ClassifyError Shape)} {shape : Shape}

/-- The first rules look at the name alone. -/
theorem classifyStep_of_primitive (hname : tree.facts.fullName ∈ primitiveNames)
    (hnullable : nullableArgument? tree.facts arguments = none) :
    classifyStep settings tree element? arguments
      = .ok (.primitive (primitiveKind tree.facts.fullName) tree.facts.name) := by
  simp only [classifyStep, primitiveKind, hnullable, beq_iff_eq, List.contains_eq_mem,
    decide_eq_true_eq, Bool.or_eq_true]
  split_ifs with hboolean hnumber hstring hidentifier htimestamp
  · rfl
  · rfl
  · rfl
  · rfl
  · rfl
  · simp only [primitiveNames, List.cons_append, List.nil_append, List.mem_cons] at hname
    tauto

/-- A nullable form is looked for behind some of the primitive names. -/
theorem classifyStep_of_nullable {inner : Except ClassifyError Shape}
    (hnullable : nullableArgument? tree.facts arguments = some inner) :
    classifyStep settings tree element? arguments
        = .ok (.primitive (primitiveKind tree.facts.fullName) tree.facts.name) ∨
      classifyStep settings tree element? arguments = (do return .nullable (← inner)) := by
  simp only [classifyStep, primitiveKind, hnullable, beq_iff_eq, List.contains_eq_mem,
    decide_eq_true_eq]
  split_ifs <;> simp

/-- The argument of a nullable type is mapped with the others. -/
theorem nullableArgument?_map {α β : Type} (f : α → β) (facts : TypeFacts) (arguments : List α) :
    nullableArgument? facts (arguments.map f) = (nullableArgument? facts arguments).map f := by
  unfold nullableArgument?
  match arguments with
  | [] | _ :: _ :: _ => simp
  | [argument] => cases facts.definition? == some TypeRef.nullableDefinition <;> rfl

/-- The nullable definition with one argument is nullable, and no other type. -/
theorem nullableArgument?_eq_some_iff {α : Type} {facts : TypeFacts} {arguments : List α}
    {inner : α} : nullableArgument? facts arguments = some inner ↔
      facts.definition? = some TypeRef.nullableDefinition ∧ arguments = [inner] := by
  unfold nullableArgument?
  split
  · next hdefinition => simp_all
  · next hne =>
    simp only [reduceCtorEq, false_iff, not_and]
    intro hdefinition harguments
    exact hne inner (by simp [hdefinition]) harguments

end

/-! ### The rules with their conditions -/

section

variable (settings : Settings) (tree : TypeTree)

/-- The shapes that the rules behind those for generic types give. -/
inductive PlainlyClassified : Shape → Prop
  | globalEnum {path : String} {metadata : Metadata} : tree.facts.isEnum →
      PlainlyClassified (.globalEnum tree.facts.name tree.facts.space path metadata)
  | domainEnum {domain path : String} {metadata : Metadata} : tree.facts.isEnum →
      PlainlyClassified (.domainEnum tree.facts.name tree.facts.space domain path metadata)
  | numericEnum : tree.facts.isEnum → PlainlyClassified (.primitive .number tree.facts.name)
  | parameter : PlainlyClassified (.parameter tree.facts.name)
  | entity {metadata : Metadata} : tree.facts.isEnum = false →
      tree.facts.implements settings.entityInterface →
        PlainlyClassified (.entity tree.facts.name tree.facts.space metadata)
  | viewModel {path : String} {metadata : Metadata} : isTransferName tree.facts.name →
      PlainlyClassified (.viewModel tree.facts.name tree.facts.space path metadata)
  | unsupported : tree.facts.isEnum = false →
      tree.facts.implements settings.entityInterface = false →
        PlainlyClassified (.unsupported tree.displayName)

/-- The shapes that the rules give.  Where a nullable form is none of them, the rule for nullable
types had been passed over. -/
inductive Classified (element? : Option (Except ClassifyError Shape))
    (arguments : List (Except ClassifyError Shape)) : Shape → Prop
  | primitive : tree.facts.fullName ∈ primitiveNames →
      Classified element? arguments
        (.primitive (primitiveKind tree.facts.fullName) tree.facts.name)
  | nullable {inner : Shape} : nullableArgument? tree.facts arguments = some (.ok inner) →
      Classified element? arguments (.nullable inner)
  | array {element : Shape} : tree.facts.fullName ∉ primitiveNames →
      element? = some (.ok element) → Classified element? arguments (.array element)
  | dictionary {definition : String} {key value : Shape} : tree.facts.fullName ∉ primitiveNames →
      tree.facts.definition? = some definition → definition ∈ dictionaryDefinitions →
        arguments = [.ok key, .ok value] → Classified element? arguments (.dictionary key value)
  | collection {element : Shape} {others : List (Except ClassifyError Shape)} :
      nullableArgument? tree.facts arguments = none → tree.facts.isGeneric →
        tree.facts.isCollection → arguments = .ok element :: others →
          Classified element? arguments (.collection element)
  | container {name : String} {shapes : List Shape} :
      nullableArgument? tree.facts arguments = none →
        tree.facts.definition? = some settings.boxDefinition →
          (tree.facts.isCollection → arguments = []) → arguments.mapM id = .ok shapes →
            Classified element? arguments (.container name shapes)
  | plain {shape : Shape} : tree.facts.fullName ∉ primitiveNames →
      nullableArgument? tree.facts arguments = none →
        (tree.facts.isGeneric → tree.facts.isCollection → arguments = []) →
          PlainlyClassified settings tree shape → Classified element? arguments shape

end

variable {settings : Settings} {tree : TypeTree} {element? : Option (Except ClassifyError Shape)}
  {arguments : List (Except ClassifyError Shape)} {shape : Shape}

/-- An enumeration is classified plainly. -/
theorem plainlyClassified_of_classifyEnum (henum : tree.facts.isEnum)
    (h : classifyEnum settings tree = .ok shape) : PlainlyClassified settings tree shape := by
  simp only [classifyEnum, Except.bind_eq_ok_iff] at h
  obtain ⟨metadata, -, hrest⟩ := h
  -- The domain of the enumeration decides; where it says nothing, the enumeration is a number.
  split at hrest
  · obtain rfl := Except.ok.inj hrest
    exact .globalEnum henum
  · simp only [pure, Except.pure] at hrest
    split at hrest
    · obtain rfl := Except.ok.inj hrest
      exact .domainEnum henum
    · obtain rfl := Except.ok.inj hrest
      exact .numericEnum henum

/-- A type without parts is classified plainly. -/
theorem plainlyClassified_of_classifyPlain (h : classifyPlain settings tree = .ok shape) :
    PlainlyClassified settings tree shape := by
  simp only [classifyPlain] at h
  -- The rules are tried in turn, so each one comes with those before it refused.
  split_ifs at h with henum hparameter hentity hview
  · exact plainlyClassified_of_classifyEnum henum h
  · obtain rfl := Except.ok.inj h
    exact .parameter
  · obtain ⟨metadata, -, hrest⟩ := Except.bind_eq_ok_iff.mp h
    obtain rfl := Except.ok.inj hrest
    exact .entity (by simpa using henum) hentity
  · obtain ⟨metadata, -, hrest⟩ := Except.bind_eq_ok_iff.mp h
    obtain rfl := Except.ok.inj hrest
    exact .viewModel (Bool.and_eq_true_iff.mp hview).2
  · obtain rfl := Except.ok.inj h
    exact .unsupported (by simpa using henum) (by simpa using hentity)

/-- What the rules for generic types give. -/
theorem classified_of_classifyGeneric? (hname : tree.facts.fullName ∉ primitiveNames)
    (hnullable : nullableArgument? tree.facts arguments = none) (hgeneric : tree.facts.isGeneric)
    (h : classifyGeneric? settings tree.facts arguments = some (.ok shape)) :
    Classified settings tree element? arguments shape := by
  obtain ⟨definition, hdefinition⟩ := Option.isSome_iff_exists.mp hgeneric
  simp only [classifyGeneric?, hdefinition, Option.getD_some] at h
  split at h
  · next key value hdictionary =>
    obtain ⟨keyShape, rfl, hrest⟩ := Except.bind_eq_ok_iff.mp (Option.some.inj h)
    obtain ⟨valueShape, rfl, hresult⟩ := Except.bind_eq_ok_iff.mp hrest
    obtain rfl := Except.ok.inj hresult
    exact .dictionary hname hdefinition (by simpa using hdictionary) rfl
  · split at h
    · next hcollection _ =>
      obtain ⟨elementShape, rfl, hrest⟩ := Except.bind_eq_ok_iff.mp (Option.some.inj h)
      obtain rfl := Except.ok.inj hrest
      exact .collection hnullable hgeneric hcollection rfl
    · next hnone _ =>
      split at h
      · next hbox =>
        obtain ⟨shapes, hshapes, hrest⟩ := Except.bind_eq_ok_iff.mp (Option.some.inj h)
        obtain rfl := Except.ok.inj hrest
        refine .container hnullable (by rw [hdefinition, eq_of_beq hbox]) ?_ hshapes
        -- The rule before would have taken a collection with an argument.
        intro hcollection
        refine List.eq_nil_iff_forall_not_mem.mpr fun outcome hmem => ?_
        obtain ⟨element, others, harguments⟩ := List.exists_cons_of_ne_nil (List.ne_nil_of_mem hmem)
        exact hnone element others hcollection harguments
      · cases h

/-- The rules for generic types are passed over only by a type without arguments or one that is no
collection. -/
theorem no_element_of_classifyGeneric? (hcollection : tree.facts.isCollection)
    (h : classifyGeneric? settings tree.facts arguments = none) : arguments = [] := by
  cases arguments with
  | nil => rfl
  | cons element others =>
    simp only [classifyGeneric?, hcollection] at h
    split at h <;> cases h

/-- What the rules give a type without a primitive name. -/
theorem classified_of_classifyOther (hname : tree.facts.fullName ∉ primitiveNames)
    (h : classifyOther settings tree element? arguments = .ok shape) :
    Classified settings tree element? arguments shape := by
  unfold classifyOther at h
  split at h
  · next inner hinner =>
    obtain ⟨innerShape, rfl, hrest⟩ := Except.bind_eq_ok_iff.mp h
    obtain rfl := Except.ok.inj hrest
    exact .nullable hinner
  · next hnullable =>
    split at h
    · next element helement =>
      obtain ⟨elementShape, rfl, hrest⟩ := Except.bind_eq_ok_iff.mp h
      obtain rfl := Except.ok.inj hrest
      exact .array hname rfl
    · split at h
      · next outcome hgeneric hrule =>
        subst h
        exact classified_of_classifyGeneric? hname hnullable hgeneric hrule
      · next hnone =>
        -- A generic type for which no rule gave an element counts as one without arguments.
        refine .plain hname hnullable ?_ (plainlyClassified_of_classifyPlain h)
        intro hgeneric hcollection
        have hnoRule : classifyGeneric? settings tree.facts arguments = none :=
          Option.eq_none_iff_forall_ne_some.mpr fun outcome hrule => hnone outcome hgeneric hrule
        exact no_element_of_classifyGeneric? hcollection hnoRule

/-- **The rules.** Every shape that they give is given under the conditions stated for it. -/
theorem classified_of_classifyStep
    (h : classifyStep settings tree element? arguments = .ok shape) :
    Classified settings tree element? arguments shape := by
  by_cases hname : tree.facts.fullName ∈ primitiveNames
  · cases hnullable : nullableArgument? tree.facts arguments with
    | none =>
      rw [classifyStep_of_primitive hname hnullable] at h
      obtain rfl := Except.ok.inj h
      exact .primitive hname
    | some inner =>
      -- Some of the primitive names are looked for before the nullable form, the others behind it.
      rcases classifyStep_of_nullable hnullable with hprimitive | hinner
      · rw [hprimitive] at h
        obtain rfl := Except.ok.inj h
        exact .primitive hname
      · rw [hinner] at h
        obtain ⟨innerShape, rfl, hrest⟩ := Except.bind_eq_ok_iff.mp h
        obtain rfl := Except.ok.inj hrest
        exact .nullable hnullable
  · rw [classifyStep_of_not_primitive settings tree element? arguments hname] at h
    exact classified_of_classifyOther hname h

namespace TypeTree

/-- Several types are classified one by one. -/
theorem classifyAll_eq_map (settings : Settings) (trees : List TypeTree) :
    classifyAll settings trees = trees.map (classify settings) := by
  induction trees with
  | nil => rfl
  | cons tree rest ih => rw [classifyAll, ih, List.map_cons]

/-- A type that has a shape has it by the rules, given the outcomes for its parts. -/
theorem classified (h : tree.classify settings = .ok shape) :
    Classified settings tree (tree.element?.map (classify settings))
      (tree.arguments.map (classify settings)) shape := by
  cases tree with
  | type facts arguments =>
    rw [classify, classifyAll_eq_map] at h
    exact classified_of_classifyStep h
  | withElement facts element arguments =>
    rw [classify, classifyAll_eq_map] at h
    exact classified_of_classifyStep h
  | repeated facts => cases h

end TypeTree

end TypeExport
