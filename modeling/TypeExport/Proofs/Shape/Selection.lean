import TypeExport.Proofs.Shape.Nesting

/-!
# Which rule applies

The rules for shapes first look at a type itself and at how many parts it has.  Only then are parts
classified: those that the rule asks for, in order, and a failure of one is that of the type.

* `Form`, `Form.compose` — the shapes that are made of other shapes.
* `Rule`, `ruleFor` — what the rules say before any part is classified.
* `classifyStep_eq_outcome` — the shape of a type is what its rule makes of its parts.
* `TypeGraph.rule` — the rule for a type of a graph.
-/

namespace TypeExport

/-- The forms of shapes that are made of other shapes. -/
inductive Form where
  | nullable
  | array
  | collection
  | dictionary
  | container (name : String)

/-- The shape of a form.  A form occurs only with as many parts as it has places for. -/
def Form.compose : Form → List Shape → Shape
  | nullable, [inner] => .nullable inner
  | array, [element] => .array element
  | collection, [element] => .collection element
  | dictionary, [key, value] => .dictionary key value
  | container name, arguments => .container name arguments
  | _, arguments => .container "" arguments

/-- What the rules say of a type before its parts are classified. -/
inductive Rule (α : Type) where
  /-- The parts do not matter. -/
  | settled (outcome : Except ClassifyError Shape)
  /-- The shape is made of the shapes of some parts. -/
  | composed (form : Form) (parts : List α)
  /-- No rule applies. -/
  | unmatched

namespace Rule

variable {α β : Type}

/-- The same rule for other parts. -/
def map (f : α → β) : Rule α → Rule β
  | settled outcome => settled outcome
  | composed form parts => composed form (parts.map f)
  | unmatched => unmatched

/-- What becomes of a type with a display name, given the outcomes for its parts. -/
def outcome (displayName : String) : Rule (Except ClassifyError Shape) → Except ClassifyError Shape
  | settled outcome => outcome
  | composed form outcomes => (outcomes.mapM id).map form.compose
  | unmatched => .ok (.unsupported displayName)

/-- A composed rule asks for the parts and composes their answers. -/
theorem outcome_map_composed (displayName : String) (form : Form) (parts : List α)
    (answer : α → Except ClassifyError Shape) :
    ((composed form parts).map answer).outcome displayName
      = (parts.mapM answer).map form.compose := by
  show ((parts.map answer).mapM id).map form.compose = _
  rw [List.mapM_map]
  rfl

end Rule

section

variable {α β : Type}

/-- The rules for a constructed generic type. -/
def genericRule? (settings : Settings) (facts : TypeFacts) (arguments : List α) :
    Option (Form × List α) :=
  let definition := facts.definition?.getD ""
  match dictionaryDefinitions.contains definition, arguments with
  | true, [key, value] => some (.dictionary, [key, value])
  | _, _ =>
    match facts.isCollection, arguments with
    | true, element :: _ => some (.collection, [element])
    | _, _ =>
      if definition == settings.boxDefinition then
        some (.container (Name.withoutArity (Name.lastSegment definition)), arguments)
      else none

/-- The rules behind those for generic types. -/
def plainRule (settings : Settings) (facts : TypeFacts) : Rule α :=
  if facts.isEnum then .settled (classifyEnum settings (.type facts []))
  else if facts.isParameter then .settled (.ok (.parameter facts.name))
  else if facts.implements settings.entityInterface then
    .settled ((readTypeMetadata settings (.type facts [])).map (.entity facts.name facts.space))
  else if Name.isUnder facts.space? settings.viewModelsSpace && isTransferName facts.name then
    .settled ((readTypeMetadata settings (.type facts [])).map
      (.viewModel facts.name facts.space (modulePath facts settings.viewModelsSpace)))
  else .unmatched

/-- The rules behind those that look at names alone. -/
def otherRule (settings : Settings) (facts : TypeFacts) (element? : Option α)
    (arguments : List α) : Rule α :=
  match facts.isArray, element? with
  | true, some element => .composed .array [element]
  | _, _ =>
    match facts.isGeneric, genericRule? settings facts arguments with
    | true, some (form, parts) => .composed form parts
    | _, _ => plainRule settings facts

/-- The rule for a type, by its facts, its element type and its arguments. -/
def ruleFor (settings : Settings) (facts : TypeFacts) (element? : Option α)
    (arguments : List α) : Rule α :=
  let fullName := facts.fullName
  if fullName == "System.Boolean" then .settled (.ok (.primitive .boolean facts.name))
  else if numberTypes.contains fullName then .settled (.ok (.primitive .number facts.name))
  else if fullName == "System.String" then .settled (.ok (.primitive .string facts.name))
  else
    match nullableArgument? facts arguments with
    | some inner => .composed .nullable [inner]
    | none =>
      if fullName == "System.Guid" then .settled (.ok (.primitive .identifier facts.name))
      else if fullName == "System.DateTime" || fullName == "System.DateTimeOffset" then
        .settled (.ok (.primitive .timestamp facts.name))
      else otherRule settings facts element? arguments

/-! ### Rules and steps -/

/-- A generic type is classified by its rule, where it has one. -/
theorem classifyGeneric?_eq (settings : Settings) (facts : TypeFacts)
    (arguments : List (Except ClassifyError Shape)) :
    classifyGeneric? settings facts arguments
      = (genericRule? settings facts arguments).map fun rule =>
          (rule.2.mapM id).map rule.1.compose := by
  have hdictionary (key value : Except ClassifyError Shape) :
      (do return .dictionary (← key) (← value))
        = ([key, value].mapM id).map Form.dictionary.compose := by
    cases key <;> cases value <;> rfl
  have hcollection (element : Except ClassifyError Shape) :
      (do return .collection (← element)) = ([element].mapM id).map Form.collection.compose := by
    cases element <;> rfl
  have hcontainer (name : String) (arguments : List (Except ClassifyError Shape)) :
      (do return Shape.container name (← arguments.mapM id))
        = (arguments.mapM id).map (Form.container name).compose := by
    cases arguments.mapM id <;> rfl
  unfold classifyGeneric? genericRule?
  dsimp only
  generalize dictionaryDefinitions.contains (facts.definition?.getD "") = isDictionary
  generalize facts.isCollection = isCollection
  generalize Name.withoutArity (Name.lastSegment (facts.definition?.getD "")) = name
  have hbox (isBox : Bool) (arguments : List (Except ClassifyError Shape)) :
      (if isBox = true then some (do return Shape.container name (← arguments.mapM id)) else none)
        = (if isBox = true then some (Form.container name, arguments) else none).map
            fun rule => (rule.2.mapM id).map rule.1.compose := by
    cases isBox with
    | false => rfl
    | true => exact congrArg some (hcontainer name arguments)
  -- Two arguments may be those of a dictionary, the first one that of a collection.
  match arguments with
  | [] => cases isDictionary <;> cases isCollection <;> exact hbox _ _
  | [element] =>
    cases isCollection with
    | false => cases isDictionary <;> exact hbox _ _
    | true => cases isDictionary <;> exact congrArg some (hcollection element)
  | [key, value] =>
    cases isDictionary with
    | true => exact congrArg some (hdictionary key value)
    | false =>
      cases isCollection with
      | false => exact hbox _ _
      | true => exact congrArg some (hcollection key)
  | element :: _ :: _ :: _ =>
    cases isCollection with
    | false => cases isDictionary <;> exact hbox _ _
    | true => cases isDictionary <;> exact congrArg some (hcollection element)

/-- A type without parts is classified by its rule. -/
theorem classifyPlain_eq (settings : Settings) (tree : TypeTree) :
    classifyPlain settings tree
      = (plainRule settings tree.facts).outcome tree.displayName := by
  have hmetadata := Metadata.read_type_congr settings
    (show tree.facts = (TypeTree.type tree.facts []).facts from rfl)
  -- Metadata are read off the markers, which are among the facts.
  have hread : readTypeMetadata settings tree
      = readTypeMetadata settings (.type tree.facts []) := by
    unfold readTypeMetadata
    rw [hmetadata]
  have henum : classifyEnum settings tree = classifyEnum settings (.type tree.facts []) := by
    unfold classifyEnum
    rw [hread]
    rfl
  unfold classifyPlain plainRule
  dsimp only
  rw [henum, hread]
  split_ifs
  · rfl
  · rfl
  · cases readTypeMetadata settings (.type tree.facts []) <;> rfl
  · cases readTypeMetadata settings (.type tree.facts []) <;> rfl
  · rfl

section

variable (settings : Settings) (tree : TypeTree)
  (element? : Option (Except ClassifyError Shape)) (arguments : List (Except ClassifyError Shape))

/-- A shape with one part. -/
theorem outcome_composed_one (displayName : String) (form : Form)
    (outcome : Except ClassifyError Shape) :
    (Rule.composed form [outcome]).outcome displayName = (do return form.compose [← outcome]) := by
  cases outcome <;> rfl

/-- The rule of another type asks for the element of an array or the arguments of a generic type. -/
theorem outcome_otherRule :
    (otherRule settings tree.facts element? arguments).outcome tree.displayName
      = match tree.facts.isArray, element? with
        | true, some element => (do return .array (← element))
        | _, _ =>
          match tree.facts.isGeneric, classifyGeneric? settings tree.facts arguments with
          | true, some outcome => outcome
          | _, _ => classifyPlain settings tree := by
  rw [classifyGeneric?_eq, classifyPlain_eq]
  unfold otherRule
  generalize genericRule? settings tree.facts arguments = generic?
  generalize tree.facts.isGeneric = isGeneric
  cases tree.facts.isArray with
  | false => cases element? <;> cases isGeneric <;> cases generic? <;> rfl
  | true =>
    cases element? with
    | none => cases isGeneric <;> cases generic? <;> rfl
    | some element => exact outcome_composed_one _ .array element

/-- The shape of a type is what its rule makes of the outcomes for its parts. -/
theorem classifyStep_eq_outcome :
    classifyStep settings tree element? arguments
      = (ruleFor settings tree.facts element? arguments).outcome tree.displayName := by
  unfold classifyStep ruleFor
  have hother := outcome_otherRule settings tree element? arguments
  dsimp only
  -- The names of primitive types come in two groups, with the nullable form between them.
  split_ifs
  · rfl
  · rfl
  · rfl
  · cases nullableArgument? tree.facts arguments with
    | some inner => exact (outcome_composed_one _ .nullable inner).symm
    | none => rfl
  · cases nullableArgument? tree.facts arguments with
    | some inner => exact (outcome_composed_one _ .nullable inner).symm
    | none => rfl
  · cases nullableArgument? tree.facts arguments with
    | some inner => exact (outcome_composed_one _ .nullable inner).symm
    | none => exact hother.symm

end

/-! ### Parts that rules ask for -/

variable {settings : Settings} {facts : TypeFacts} {element? : Option α} {arguments : List α}

/-- A rule for generic types asks for arguments. -/
theorem mem_arguments_of_genericRule? {form : Form} {parts : List α} {part : α}
    (h : genericRule? settings facts arguments = some (form, parts)) (hpart : part ∈ parts) :
    part ∈ arguments := by
  unfold genericRule? at h
  dsimp only at h
  -- A dictionary and a box ask for all arguments, a collection for the first one.
  split at h
  · obtain ⟨rfl, rfl⟩ := Prod.mk.inj (Option.some.inj h)
    exact hpart
  · split at h
    · obtain ⟨rfl, rfl⟩ := Prod.mk.inj (Option.some.inj h)
      obtain rfl := List.mem_singleton.mp hpart
      exact List.mem_cons_self
    · split at h
      · obtain ⟨rfl, rfl⟩ := Prod.mk.inj (Option.some.inj h)
        exact hpart
      · cases h

/-- The rule of a type without parts composes nothing. -/
theorem plainRule_ne_composed (settings : Settings) (facts : TypeFacts) (form : Form)
    (parts : List α) : plainRule settings facts ≠ .composed form parts := by
  unfold plainRule
  split_ifs <;> nofun

/-- A rule asks for the element type or for arguments. -/
theorem mem_of_ruleFor {form : Form} {parts : List α} {part : α}
    (h : ruleFor settings facts element? arguments = .composed form parts)
    (hpart : part ∈ parts) : element? = some part ∨ part ∈ arguments := by
  have hother (h : otherRule settings facts element? arguments = .composed form parts) :
      element? = some part ∨ part ∈ arguments := by
    unfold otherRule at h
    split at h
    · obtain ⟨rfl, rfl⟩ := Rule.composed.inj h
      obtain rfl := List.mem_singleton.mp hpart
      exact .inl rfl
    · split at h
      · next generic _ hgeneric =>
        obtain ⟨rfl, rfl⟩ := Rule.composed.inj h
        exact .inr (mem_arguments_of_genericRule? hgeneric hpart)
      · exact absurd h (plainRule_ne_composed settings facts form parts)
  unfold ruleFor at h
  dsimp only at h
  split_ifs at h
  -- Of the rules that look at names, only that of the nullable form asks for a part.
  all_goals
    split at h
    · next inner hinner =>
      obtain ⟨-, rfl⟩ := nullableArgument?_eq_some_iff.mp hinner
      obtain ⟨rfl, rfl⟩ := Rule.composed.inj h
      exact .inr hpart
    · first | cases h | exact hother h

/-- A rule that needs no part gives a primitive shape, or it is one of those behind the generic
types. -/
theorem eq_ok_or_plainRule_of_settled {outcome : Except ClassifyError Shape}
    (h : ruleFor settings facts element? arguments = .settled outcome) :
    (∃ shape, outcome = .ok shape) ∨ (plainRule settings facts : Rule α) = .settled outcome := by
  have hother (h : otherRule settings facts element? arguments = .settled outcome) :
      (plainRule settings facts : Rule α) = .settled outcome := by
    unfold otherRule at h
    split at h
    · cases h
    · split at h
      · cases h
      · exact h
  unfold ruleFor at h
  dsimp only at h
  split_ifs at h
  -- Primitive names are settled, before or behind the rule for nullable forms.
  all_goals
    first
    | exact .inl ⟨_, (Rule.settled.inj h).symm⟩
    | split at h
      · cases h
      · first
        | exact .inl ⟨_, (Rule.settled.inj h).symm⟩
        | exact .inr (hother h)

/-- The rule of a generic type does not look at the answers of its arguments. -/
theorem genericRule?_map (f : α → β) :
    genericRule? settings facts (arguments.map f)
      = (genericRule? settings facts arguments).map fun rule => (rule.1, rule.2.map f) := by
  unfold genericRule?
  dsimp only
  generalize dictionaryDefinitions.contains (facts.definition?.getD "") = isDictionary
  generalize (facts.definition?.getD "" == settings.boxDefinition) = isBox
  match arguments with
  | [] | [_] | [_, _] | _ :: _ :: _ :: _ =>
    cases isDictionary <;> cases facts.isCollection <;> cases isBox <;> rfl

/-- The rule of a type without parts has no answers to look at. -/
theorem plainRule_map (f : α → β) :
    (plainRule settings facts : Rule β) = (plainRule settings facts).map f := by
  unfold plainRule
  split_ifs <;> rfl

/-- Which rule applies does not depend on what the parts are. -/
theorem ruleFor_map (f : α → β) :
    ruleFor settings facts (element?.map f) (arguments.map f)
      = (ruleFor settings facts element? arguments).map f := by
  have hother : otherRule settings facts (element?.map f) (arguments.map f)
      = (otherRule settings facts element? arguments).map f := by
    unfold otherRule
    rw [genericRule?_map, plainRule_map f]
    -- What the rules look at is no matter; only where the parts go is.
    generalize genericRule? settings facts arguments = generic?
    generalize facts.isGeneric = isGeneric
    cases facts.isArray <;> cases element? <;> cases isGeneric <;> cases generic? <;> rfl
  unfold ruleFor
  dsimp only
  rw [nullableArgument?_map, hother]
  split_ifs
  all_goals first | rfl | (cases nullableArgument? facts arguments <;> rfl)

end

/-! ### Rules for types of a graph -/

namespace TypeGraph

variable {graph : TypeGraph} {settings : Settings} {type : TypeRef}

/-- The rule for a type of a graph. -/
def rule (graph : TypeGraph) (settings : Settings) (type : TypeRef) : Rule TypeRef :=
  ruleFor settings (graph.facts type) (graph.element? type) (graph.arguments type)

/-- A rule asks for types right below the type. -/
theorem builtFrom_of_rule {form : Form} {parts : List TypeRef} {part : TypeRef}
    (h : graph.rule settings type = .composed form parts) (hpart : part ∈ parts) :
    graph.BuiltFrom part type := by
  obtain helement | hargument := mem_of_ruleFor h hpart
  · exact .element helement
  · exact .argument hargument

/-- The shape of a type from its rule, given one level of its tree. -/
theorem classify_eq_outcome {tree : TypeTree} {below : TypeRef → TypeTree}
    (h : tree = .node (graph.facts type) ((graph.element? type).map below)
      ((graph.arguments type).map below)) :
    tree.classify settings
      = ((graph.rule settings type).map fun part => (below part).classify settings).outcome
          tree.displayName := by
  rw [h, TypeTree.classify_node, classifyStep_eq_outcome, TypeTree.facts_node, Option.map_map,
    List.map_map, ruleFor_map]
  rfl

end TypeGraph

end TypeExport
