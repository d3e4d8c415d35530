import TypeExport.Proofs.Bag.Supported

/-!
# Conversions and bags

A property that is copied between an entity and its bag stands in the bag, with the type that the
copy needs.

* `OwnedProperty.conversion_cases` — which types have which conversion.
* `TypeTree.isSupported_of_isAssignable`, `TypeTree.isSupported_of_entity` — such types are
  supported.
* `Strategy.Gives` — what the type of the bag's property has to be.
* `conversion_matches_bag` — conversions and bags agree.
-/

namespace TypeExport

/-! ### Conversions -/

/-- A property is converted as a value, as an entity, or as a collection of entities. -/
theorem OwnedProperty.conversion_cases {graph : TypeGraph} {settings : Settings}
    {owned : OwnedProperty} {conversion : Conversion}
    (h : owned.conversion graph settings = .ok conversion)
    (hstrategy : conversion.strategy ≠ .unsupported) :
    (conversion.strategy = .assignment ∧ (graph.tree owned.property.type).isAssignable) ∨
      (∃ name space metadata, conversion.strategy = .reference ∧
        graph.classify settings owned.property.type = .ok (.entity name space metadata)) ∨
      ∃ name space metadata, conversion.strategy = .referenceList ∧
        graph.classify settings owned.property.type
          = .ok (.collection (.entity name space metadata)) ∧
        (graph.tree owned.property.type).arguments.length = 1 := by
  unfold OwnedProperty.conversion at h
  simp only at h
  -- Assignable types come first; the shape decides about all others.
  split at h
  · next hassignable =>
    obtain rfl := Except.ok.inj h
    exact .inl ⟨rfl, hassignable⟩
  · obtain ⟨shape, hshape, h⟩ := Except.bind_eq_ok_iff.mp h
    split at h
    · obtain rfl := Except.ok.inj h
      exact .inr (.inl ⟨_, _, _, rfl, hshape⟩)
    · split at h
      · next hlength =>
        obtain rfl := Except.ok.inj h
        exact .inr (.inr ⟨_, _, _, rfl, hshape, hlength⟩)
      · obtain rfl := Except.ok.inj h
        exact absurd rfl hstrategy
    · obtain rfl := Except.ok.inj h
      exact absurd rfl hstrategy

/-! ### Values -/

/-- How a primitive type is spelled. -/
def primitiveSpelling (typeName : String) : Primitive → String
  | .boolean => "bool"
  | .number => numberKeyword typeName
  | .string => "string"
  | .identifier | .timestamp => typeName

/-- A primitive type is spelled the same under either policy. -/
theorem cSharp_primitive (settings : Settings) (kind : Primitive) (typeName : String) :
    ∃ imports, ∀ lenient, Shape.cSharp settings lenient (.primitive kind typeName)
      = pure ⟨primitiveSpelling typeName kind, imports⟩ := by
  cases kind <;> exact ⟨_, fun _ => rfl⟩

/-- An assignable type is spelled with its keyword, if it has the name that belongs to it. -/
theorem primitiveSpelling_of_assignment {fullName : String} (h : fullName ∈ assignmentTypes) :
    ∃ keyword ∈ Expression.keywords, fullName = "System." ++ keyword.2 ∧
      primitiveSpelling (Name.lastSegment fullName) (primitiveKind fullName) = keyword.1 := by
  have hkeyword : ∀ fullName ∈ assignmentTypes, ∃ keyword ∈ Expression.keywords,
      fullName = "System." ++ keyword.2 ∧
        primitiveSpelling (Name.lastSegment fullName) (primitiveKind fullName) = keyword.1 := by
    decide
  exact hkeyword fullName h

namespace TypeTree

variable {settings : Settings} {tree : TypeTree}

/-- What a type holds: the argument of a nullable form, and any other type itself. -/
def payload (tree : TypeTree) : TypeTree :=
  (nullableArgument? tree.facts tree.arguments).getD tree

/-- A regular nullable form is no collection, so its argument decides nothing but its value. -/
theorem isSupported_of_isAssignable (hregular : tree.Regular) (h : tree.isAssignable) :
    tree.isSupported settings := by
  cases hregular with
  | @type facts arguments hfacts _ =>
    rw [isSupported_of_not_collection, if_pos h]
    rintro argument ⟨hgeneric, hcollection, -⟩
    obtain ⟨inner, hinner, -⟩ | ⟨-, hplain, -⟩ := isAssignable_iff.mp h
    · obtain ⟨hdefinition, harguments⟩ := nullableArgument?_eq_some_iff.mp hinner
      obtain rfl : arguments = [inner] := harguments
      have hinterfaces := (hfacts.nullable hdefinition rfl).2
      have hnot : TypeRef.nullableDefinition ≠ collectionInterface := by decide
      have hdefinition : facts.definition? = some TypeRef.nullableDefinition := hdefinition
      simp [TypeTree.facts, TypeFacts.isCollection, TypeFacts.implements, hinterfaces, hdefinition,
        hnot] at hcollection
    · exact absurd (hplain.symm.trans hgeneric) Bool.false_ne_true
  | array _ => exact absurd ((isAssignable_arrayOf _).symm.trans h) Bool.false_ne_true

/-- An entity is supported. -/
theorem isSupported_of_entity (hregular : tree.Regular) {name space : String} {metadata : Metadata}
    (h : tree.classify settings = .ok (.entity name space metadata)) :
    tree.isSupported settings := by
  cases classified h with
  | plain _ _ hnone hplain =>
    cases hplain with
    | entity henum hentity =>
      cases hregular with
      | @type facts arguments _ _ =>
        rw [isSupported_of_not_collection]
        · split
          · rfl
          · have henum : facts.isEnum = false := henum
            rw [henum]
            exact hentity
        -- A collection of one argument would have had the shape of a collection.
        · rintro argument ⟨hgeneric, hcollection, harguments⟩
          have hnone := hnone hgeneric hcollection
          rw [harguments] at hnone
          cases hnone
      | array _ => simp [arrayOf, TypeTree.facts, TypeFacts.implements] at hentity

/-- A collection of one argument whose elements are entities is supported. -/
theorem isSupported_of_entities (hregular : tree.Regular) {name space : String}
    {metadata : Metadata}
    (h : tree.classify settings = .ok (.collection (.entity name space metadata)))
    (hlength : tree.arguments.length = 1) : tree.isSupported settings := by
  cases classified h with
  | collection _ hgeneric hcollection hcons =>
    obtain ⟨argument, harguments⟩ := List.length_eq_one_iff.mp hlength
    rw [harguments] at hcons
    have hentity := (List.cons.inj hcons).1
    cases hregular with
    | @type facts arguments _ hparts =>
      obtain rfl : arguments = [argument] := harguments
      -- A collection of one argument is supported if the argument is.
      rw [isSupported_of_collection ⟨hgeneric, hcollection, rfl⟩]
      exact isSupported_of_entity (hparts argument (List.mem_singleton_self _)) hentity
    | array _ => cases harguments
  | plain _ _ _ hplain => cases hplain

/-- A regular type with the name of an assignable one is spelled with its keyword.  An open
parameter may have such a name; it is then spelled like some other type. -/
theorem Regular.spelling (hregular : tree.Regular) (h : tree.facts.fullName ∈ assignmentTypes)
    (hparameter : tree.facts.isParameter = false) : ∃ keyword ∈ Expression.keywords,
      tree.facts.fullName = "System." ++ keyword.2 ∧
        primitiveSpelling tree.facts.name (primitiveKind tree.facts.fullName) = keyword.1 := by
  have hprimitive := primitive_of_assignment h
  cases hregular with
  | @type facts arguments hfacts _ =>
    obtain hopen | hname := hfacts.name hprimitive
    · exact absurd (hparameter.symm.trans hopen) Bool.false_ne_true
    · rw [TypeTree.facts, hname]
      exact primitiveSpelling_of_assignment h
  | array _ => exact absurd hprimitive (brackets_not_primitive _ _)

/-- An assignable type is a primitive one or the nullable form of one. -/
theorem classify_of_isAssignable (hregular : tree.Regular) (h : tree.isAssignable) :
    tree.payload.Regular ∧ tree.payload.facts.fullName ∈ assignmentTypes ∧
      tree.classify settings = .ok
        (if tree.isNullable then
          .nullable (.primitive (primitiveKind tree.payload.facts.fullName) tree.payload.facts.name)
        else .primitive (primitiveKind tree.payload.facts.fullName) tree.payload.facts.name) := by
  -- The payload is the argument of a nullable form, and otherwise the type itself.
  obtain ⟨inner, hinner, hname⟩ | ⟨hnone, -, hname⟩ := isAssignable_iff.mp h
  · have hpayload : tree.payload = inner := by rw [payload, hinner, Option.getD_some]
    have hnullable : tree.isNullable := by rw [isNullable, hinner, Option.isSome_some]
    rw [hpayload, if_pos hnullable]
    have hassigned := List.mem_of_mem_filter hname
    cases hregular with
    | @type facts arguments hfacts hparts =>
      obtain ⟨hdefinition, harguments⟩ := nullableArgument?_eq_some_iff.mp hinner
      obtain rfl : arguments = [inner] := harguments
      have hregular := hparts inner (List.mem_singleton_self _)
      refine ⟨hregular, hassigned, ?_⟩
      rw [Regular.classify_nullable (.type hfacts hparts) hinner,
        hregular.classify_primitive (primitive_of_assignment hassigned)]
      rfl
    | array _ => cases hinner
  · have hpayload : tree.payload = tree := by rw [payload, hnone, Option.getD_none]
    have hnullable : tree.isNullable = false := by rw [isNullable, hnone, Option.isSome_none]
    rw [hpayload, hnullable]
    exact ⟨hregular, hname, hregular.classify_primitive (primitive_of_assignment hname)⟩

end TypeTree

/-! ### Properties of bags -/

/-- What the type of a bag's property has to be for a conversion.  A value has the type of the
property, which is a value of the namespace `System` and not a reference; only where it is an open
parameter is its spelling left open. -/
def Strategy.Gives (settings : Settings) (tree : TypeTree) (shape : Shape) (text : String) :
    Strategy → Prop
  | assignment =>
    (∃ kind name, shape = .primitive kind name ∨ shape = .nullable (.primitive kind name)) ∧
      ∃ spelling, text = spelling ++ (if tree.isNullable then "?" else "") ∧
        (tree.payload.facts.isParameter = false → ∃ keyword ∈ Expression.keywords,
          tree.payload.facts.fullName = "System." ++ keyword.2 ∧ spelling = keyword.1)
  | reference => text = settings.referenceBag
  | referenceList => text = "List<" ++ settings.referenceBag ++ ">"
  | unsupported => False

section

variable {graph : TypeGraph} {settings : Settings}

/-- The declaration of a type in a bag, from the C# type of its shape. -/
theorem propertyType_of_cSharp {type : TypeRef} {shape : Shape} {declaration : Declaration}
    (hshape : graph.classify settings type = .ok shape)
    (hdeclaration : ∀ lenient, shape.cSharp settings lenient = pure declaration) (strict : Bool) :
    propertyType graph settings .csharp strict true type = pure declaration := by
  rw [propertyType_of_classify hshape, Shape.declare, hdeclaration]
  rfl

/-- A value is declared as it is spelled. -/
theorem gives_assignment {type : TypeRef} (hregular : (graph.tree type).Regular)
    (h : (graph.tree type).isAssignable) :
    ∃ shape declaration, graph.classify settings type = .ok shape ∧
      (∀ strict, propertyType graph settings .csharp strict true type = pure declaration) ∧
      Strategy.assignment.Gives settings (graph.tree type) shape declaration.text := by
  obtain ⟨hpayload, hname, hshape⟩ := TypeTree.classify_of_isAssignable hregular h
  have hspelling := hpayload.spelling hname
  generalize primitiveKind (graph.tree type).payload.facts.fullName = kind at hshape hspelling
  obtain ⟨imports, hprimitive⟩ :=
    cSharp_primitive settings kind (graph.tree type).payload.facts.name
  generalize primitiveSpelling (graph.tree type).payload.facts.name kind = spelling
    at hprimitive hspelling
  -- The spelling is declared as it is, with a mark behind it for a nullable form.
  cases hnullable : (graph.tree type).isNullable with
  | true =>
    rw [if_pos hnullable] at hshape
    refine ⟨_, ⟨spelling ++ "?", imports⟩, hshape, propertyType_of_cSharp hshape fun lenient => ?_,
      ⟨kind, _, .inr rfl⟩, spelling, by rw [if_pos hnullable], ?_⟩
    · rw [Shape.cSharp, hprimitive]
      rfl
    · exact hspelling
  | false =>
    rw [hnullable] at hshape
    refine ⟨_, ⟨spelling, imports⟩, hshape, propertyType_of_cSharp hshape hprimitive,
      ⟨kind, _, .inl rfl⟩, spelling, by rw [hnullable]; exact String.append_empty.symm, ?_⟩
    exact hspelling

/-- **From conversion to declaration.** The type of a property that is converted is supported, has a
shape, and is declared as the conversion needs it. -/
theorem gives_of_conversion {owned : OwnedProperty} {conversion : Conversion}
    (hregular : (graph.tree owned.property.type).Regular)
    (h : owned.conversion graph settings = .ok conversion)
    (hstrategy : conversion.strategy ≠ .unsupported) :
    (graph.tree owned.property.type).isSupported settings ∧
      ∃ shape declaration, graph.classify settings owned.property.type = .ok shape ∧
        (∀ strict, propertyType graph settings .csharp strict true owned.property.type
          = pure declaration) ∧
        conversion.strategy.Gives settings (graph.tree owned.property.type) shape
          declaration.text := by
  -- There is one case for each strategy that converts: a value, an entity, a list of entities.
  obtain ⟨hconversion, hassignable⟩ | ⟨name, space, metadata, hconversion, hshape⟩ |
    ⟨name, space, metadata, hconversion, hshape, hlength⟩ :=
      OwnedProperty.conversion_cases h hstrategy
  · rw [hconversion]
    exact ⟨TypeTree.isSupported_of_isAssignable hregular hassignable,
      gives_assignment hregular hassignable⟩
  · rw [hconversion]
    exact ⟨TypeTree.isSupported_of_entity hregular hshape, _, _, hshape,
      propertyType_of_cSharp hshape fun _ => rfl, rfl⟩
  · rw [hconversion]
    exact ⟨TypeTree.isSupported_of_entities hregular hshape hlength, _, _, hshape,
      propertyType_of_cSharp hshape fun _ => rfl, rfl⟩

/-! ### Lines of bags -/

/-- The line of a property. -/
def bagLine (typeText name : String) : String :=
  "        public " ++ typeText ++ " " ++ name ++ " \x7b get; set; \x7d\n"

/-- A line of a bag is its comment and the property itself. -/
theorem append_bagLine (comment typeText name : String) :
    comment ++ "        public " ++ typeText ++ " " ++ name ++ " \x7b get; set; \x7d\n"
      = comment ++ bagLine typeText name := by
  unfold bagLine
  simp only [String.append_assoc]

/-- Each of the joined texts is inside. -/
theorem infix_intercalate (separator : String) {item : String} {items : List String}
    (h : item ∈ items) : item.toList <:+: (separator.intercalate items).toList := by
  -- The induction is on the items; the separator stands before all but the first.
  induction items with
  | nil => cases h
  | cons first rest ih =>
    cases rest with
    | nil =>
      obtain rfl := List.mem_singleton.mp h
      simpa only [String.intercalate_singleton] using List.infix_refl _
    | cons second rest =>
      rw [String.intercalate_cons_cons, String.toList_append]
      obtain rfl | h := List.mem_cons.mp h
      · rw [String.toList_append, List.append_assoc]
        exact (List.prefix_append _ _).isInfix
      · exact (ih h).trans (List.suffix_append _ _).isInfix

/-- The body of a class is inside its text. -/
theorem infix_bagClass (summary? : Option String) (head body : String) :
    body.toList <:+: (bagClass summary? head body).toList := by
  rw [bagClass, String.toList_append, String.toList_append]
  exact List.infix_append _ _ _

/-- The text of a property ends in its line; only a comment stands before it. -/
theorem infix_bagProperty {owned : OwnedProperty} {declaration : Declaration}
    (hdeclaration : ∀ strict, propertyType graph settings .csharp strict true owned.property.type
      = pure declaration)
    {documentation : Documentation} {strict : Bool} {line : Declaration}
    (h : (bagProperty graph settings documentation strict owned).outcome = .ok line) :
    (bagLine declaration.text owned.property.name).toList <:+: line.text.toList := by
  simp only [bagProperty, hdeclaration, Report.outcome_bind, Report.outcome_pure,
    Except.bind_ok_eq, Except.ok.injEq] at h
  rw [← h, append_bagLine, String.toList_append]
  exact (List.suffix_append _ _).isInfix

/-- The property of a supported type has its line in every bag that is made of it. -/
theorem infix_entityBag {owned : OwnedProperty} {declaration : Declaration}
    (hsupported : (graph.tree owned.property.type).isSupported settings)
    (hdeclaration : ∀ strict, propertyType graph settings .csharp strict true owned.property.type
      = pure declaration)
    {documentation : Documentation} {strict : Bool} {entityName : String} {summary? : Option String}
    {properties : List OwnedProperty} (howned : owned ∈ properties) {bag : Declaration}
    (hbag : (entityBag graph settings documentation strict entityName summary? properties).outcome
      = .ok bag) :
    (bagLine declaration.text owned.property.name).toList <:+: bag.text.toList := by
  simp only [entityBag, Report.outcome_bind, Report.outcome_mapM, Except.bind_eq_ok_iff] at hbag
  obtain ⟨lines, hlines, hbag⟩ := hbag
  obtain rfl := Except.ok.inj hbag
  have hfiltered : owned ∈ properties.filter fun owned =>
      (graph.tree owned.property.type).isSupported settings :=
    List.mem_filter.mpr ⟨howned, hsupported⟩
  -- The bag is made of the supported properties in the order of their names, so this is one of
  -- them.
  have hordered :=
    (Name.mem_sortByName (fun owned : OwnedProperty => owned.property.name) _ _).mpr hfiltered
  obtain ⟨line, hline⟩ := Except.exists_mapM_eq_ok_iff.mp ⟨lines, hlines⟩ owned hordered
  have hmem : line ∈ lines := (Except.mem_of_mapM_eq_ok hlines line).mpr ⟨owned, hordered, hline⟩
  have hbody := infix_intercalate "\n" (List.mem_map_of_mem (f := (·.text)) hmem)
  exact ((infix_bagProperty hdeclaration hline).trans hbody).trans (infix_bagClass _ _ _)

end

/-- **Conversions and bags agree.** A property of a denoted type that has a conversion is supported,
its type has a shape and is declared as the conversion needs it, and every bag that is made of the
property has a line with this declaration. -/
theorem conversion_matches_bag {scope : Expression.Scope} (hcatalog : scope.catalog.IsPlain)
    {owned : OwnedProperty} {text : String} (hparse : scope.parse text = .ok owned.property.type)
    {settings : Settings} {conversion : Conversion}
    (hconversion : owned.conversion scope.catalog.graph settings = .ok conversion)
    (hstrategy : conversion.strategy ≠ .unsupported) :
    (scope.catalog.graph.tree owned.property.type).isSupported settings ∧
      ∃ shape declaration,
        scope.catalog.graph.classify settings owned.property.type = .ok shape ∧
        (∀ strict, propertyType scope.catalog.graph settings .csharp strict true owned.property.type
          = pure declaration) ∧
        conversion.strategy.Gives settings (scope.catalog.graph.tree owned.property.type) shape
          declaration.text ∧
        ∀ documentation strict entityName summary? properties bag, owned ∈ properties →
          (entityBag scope.catalog.graph settings documentation strict entityName summary?
            properties).outcome = .ok bag →
          (bagLine declaration.text owned.property.name).toList <:+: bag.text.toList := by
  have hregular := Expression.regular_of_denoted hcatalog hcatalog rfl
    (Expression.denoted_of_parse hparse)
  obtain ⟨hsupported, shape, declaration, hshape, hdeclaration, hgives⟩ :=
    gives_of_conversion hregular hconversion hstrategy
  refine ⟨hsupported, shape, declaration, hshape, hdeclaration, hgives, ?_⟩
  intro documentation strict entityName summary? properties bag howned hbag
  exact infix_entityBag hsupported hdeclaration howned hbag

/-- A catalog with one entity. -/
def personScope : Expression.Scope where
  catalog := ⟨⟨[{
    facts :=
      { name := "Person", space? := some "Rock.Model", interfaces := ["Rock.Data.IEntity"] } }]⟩⟩

/-- A property that is a list of this entity. -/
def membersProperty : OwnedProperty where
  owner? := none
  property := {
    name := "Members"
    type :=
      .generic (Expression.Scope.collectionHead "List`1" [collectionInterface]) [.declared 0] }

/-- The catalog of the person is plain. -/
theorem personScope_isPlain : personScope.catalog.IsPlain := by
  intro entry hentry
  obtain rfl := List.mem_singleton.mp hentry
  exact ⟨rfl, rfl, rfl, nofun⟩

/-- A list of entities is converted to references, and the bag declares such a list. -/
theorem conversion_matches_bag_members :
    personScope.parse "List<Person>" = .ok membersProperty.property.type ∧
    membersProperty.conversion personScope.catalog.graph {}
      = .ok ⟨"Members", .referenceList, "List<Person>", false⟩ ∧
    (personScope.catalog.graph.tree membersProperty.property.type).isSupported {} ∧
    ∃ shape declaration,
      personScope.catalog.graph.classify {} membersProperty.property.type = .ok shape ∧
      (∀ strict, propertyType personScope.catalog.graph {} .csharp strict true
        membersProperty.property.type = pure declaration) ∧
      Strategy.referenceList.Gives {} (personScope.catalog.graph.tree membersProperty.property.type)
        shape declaration.text ∧
      ∀ documentation strict entityName summary? properties bag, membersProperty ∈ properties →
        (entityBag personScope.catalog.graph {} documentation strict entityName summary?
          properties).outcome = .ok bag →
        (bagLine declaration.text "Members").toList <:+: bag.text.toList := by
  have hparse : personScope.parse "List<Person>" = .ok membersProperty.property.type := by
    have hscan : Expression.Token.scan "List<Person>".toList
        = .ok [⟨.name "List", 1⟩, ⟨.symbol '<', 5⟩, ⟨.name "Person", 6⟩, ⟨.symbol '>', 12⟩] := by
      decide
    exact Expression.parse_of_scan hscan rfl
  have hconversion : membersProperty.conversion personScope.catalog.graph {}
      = .ok ⟨"Members", .referenceList, "List<Person>", false⟩ := by rfl
  exact ⟨hparse, hconversion,
    conversion_matches_bag personScope_isPlain hparse hconversion (by decide)⟩

/-- A text denotes a type that is copied as a value, but its declaration is not the keyword of this
value, with a question mark for a nullable form. -/
def Expression.Scope.SpellsOtherwise (scope : Scope) (text : String) (type : TypeRef)
    (spelling : String) : Prop :=
  scope.parse text = .ok type ∧
    (∃ display, OwnedProperty.conversion scope.catalog.graph {} ⟨none, { name := "Size", type }⟩
      = .ok ⟨"Size", .assignment, display, false⟩) ∧
    (∀ strict, propertyType scope.catalog.graph {} .csharp strict true type
      = pure ⟨spelling, []⟩) ∧
    ¬ ∃ keyword ∈ Expression.keywords,
      (scope.catalog.graph.tree type).payload.facts.fullName = "System." ++ keyword.2 ∧
        spelling = keyword.1 ++ (if (scope.catalog.graph.tree type).isNullable then "?" else "")

/-- A catalog that declares a nullable number under the name of text. -/
def nullableTextScope : Expression.Scope where
  catalog := ⟨⟨[{
    facts :=
      { name := "String", space? := some "System", definition? := some TypeRef.nullableDefinition }
    arguments := [.system "Int32"] }]⟩⟩

/-- A catalog that declares a generic type under the name of a number. -/
def genericNumberScope : Expression.Scope where
  catalog := ⟨⟨[{ facts := { name := "System.Int64", parameters := ["T"] } }]⟩⟩

/-- **Misspelled values.** Open parameters, constructed types and generic types without an arity may
have the name of a type of the namespace `System`.  They are then copied as values, but declared as
other ones. -/
theorem value_spelled_otherwise :
    Expression.Scope.SpellsOtherwise { parameters := ["System.Int64"] } "System.Int64"
      (.parameter "System.Int64") "int" ∧
    nullableTextScope.SpellsOtherwise "String" (.declared 0) "string" ∧
    genericNumberScope.SpellsOtherwise "System.Int64<string>?"
      (.nullable (.generic
        (Expression.Scope.declaredHead { name := "System.Int64", parameters := ["T"] })
        [.system "String"])) "int?" := by
  -- The tokens are given, so that nothing is evaluated but the descent over them.
  refine ⟨?parameter, ?constructed, ?generic⟩
  case parameter =>
    have hscan : Expression.Token.scan "System.Int64".toList = .ok [⟨.name "System.Int64", 1⟩] := by
      decide
    exact ⟨Expression.parse_of_scan hscan rfl, ⟨_, rfl⟩, fun strict => by cases strict <;> rfl,
      by decide⟩
  case constructed =>
    have hscan : Expression.Token.scan "String".toList = .ok [⟨.name "String", 1⟩] := by decide
    exact ⟨Expression.parse_of_scan hscan rfl, ⟨_, rfl⟩, fun strict => by cases strict <;> rfl,
      by decide⟩
  case generic =>
    have hscan : Expression.Token.scan "System.Int64<string>?".toList
        = .ok [⟨.name "System.Int64", 1⟩, ⟨.symbol '<', 13⟩, ⟨.name "string", 14⟩,
            ⟨.symbol '>', 20⟩, ⟨.symbol '?', 21⟩] := by decide
    exact ⟨Expression.parse_of_scan hscan rfl, ⟨_, rfl⟩, fun strict => by cases strict <;> rfl,
      by decide⟩

end TypeExport
