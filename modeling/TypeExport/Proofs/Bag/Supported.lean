import TypeExport.EntityBag
import TypeExport.Proofs.Catalog.Reading
import TypeExport.Proofs.Declaration.PropertyType
import TypeExport.Proofs.Expression.Regular

/-!
# Supported types have supported shapes

Whether a property may stand in a bag and which shape its type has are decided by separate rules.
They agree on regular types, but for entities that are generic collections or boxes: as entities
they may stand in a bag, while their shape is that of a collection or a box of their arguments.

* `TypeTree.isSupported_cases` — why a type is supported.
* `TypeTree.Regular.classify_primitive` — a primitive name gives a primitive shape.
* `TypeTree.HoldsEntityWithParts` — the types on which the rules disagree.
* `TypeTree.supported_of_collection`, `TypeTree.supported_of_not_collection` — the shapes of
  supported types, by why they are supported.
* `TypeTree.supported_of_isSupported` — the shape of any other supported type is supported.
* `bag_filter_agrees` — the bags of a catalog that was read.
-/

namespace TypeExport

namespace TypeTree

variable {settings : Settings} {tree : TypeTree} {facts : TypeFacts} {arguments : List TypeTree}

/-! ### The filter -/

/-- Several trees are tested one by one. -/
theorem areSupported_eq_map (settings : Settings) (trees : List TypeTree) :
    areSupported settings trees = trees.map (isSupported settings) := by
  induction trees with
  | nil => rfl
  | cons tree rest ih => rw [areSupported, ih, List.map_cons]

/-- A type is a collection of one argument. -/
def IsCollectionOf (tree argument : TypeTree) : Prop :=
  tree.facts.isGeneric ∧ tree.facts.isCollection ∧ tree.arguments = [argument]

/-- A collection of one argument is supported if the argument is. -/
theorem isSupported_of_collection {argument : TypeTree}
    (h : (type facts arguments).IsCollectionOf argument) :
    (type facts arguments).isSupported settings = argument.isSupported settings := by
  obtain ⟨hgeneric, hcollection, harguments⟩ := h
  obtain rfl : arguments = [argument] := harguments
  have hboth : (facts.isGeneric && facts.isCollection) = true :=
    Bool.and_eq_true_iff.mpr ⟨hgeneric, hcollection⟩
  simp only [isSupported, areSupported, supportedStep, TypeTree.facts, hboth]

/-- What makes a type supported that is no collection of one argument. -/
theorem isSupported_of_not_collection
    (hnot : ∀ argument, ¬ (type facts arguments).IsCollectionOf argument) :
    (type facts arguments).isSupported settings =
      if (type facts arguments).isAssignable then true
      else if facts.isEnum then
        Name.isUnder facts.space? settings.enumsSpace
          || (findMarker? facts.markers settings.domainMarker).isSome
      else facts.implements settings.entityInterface := by
  rw [isSupported, areSupported_eq_map]
  match hcollection : facts.isGeneric && facts.isCollection, arguments with
  | false, _ =>
    simp only [supportedStep, TypeTree.facts, hcollection]
    rfl
  | true, [] | true, _ :: _ :: _ =>
    simp only [supportedStep, TypeTree.facts, hcollection, List.map]
    rfl
  | true, [argument] =>
    obtain ⟨hgeneric, hcollection⟩ := Bool.and_eq_true_iff.mp hcollection
    exact absurd ⟨hgeneric, hcollection, rfl⟩ (hnot argument)

/-- A supported type is a collection of a supported argument, or it is assignable, an enumeration
or an entity. -/
theorem isSupported_cases (h : (type facts arguments).isSupported settings) :
    (∃ argument, (type facts arguments).IsCollectionOf argument ∧ argument.isSupported settings) ∨
      (∀ argument, ¬ (type facts arguments).IsCollectionOf argument) ∧
        ((type facts arguments).isAssignable ∨ facts.isEnum ∨
          facts.implements settings.entityInterface) := by
  by_cases hcollection : ∃ argument, (type facts arguments).IsCollectionOf argument
  · obtain ⟨argument, hof⟩ := hcollection
    exact .inl ⟨argument, hof, isSupported_of_collection hof ▸ h⟩
  · have hnot := not_exists.mp hcollection
    refine .inr ⟨hnot, ?_⟩
    -- What is no collection of one argument is asked the three questions in turn.
    rw [isSupported_of_not_collection hnot] at h
    split at h
    · next hassignable => exact .inl hassignable
    · split at h
      · next henum => exact .inr (.inl henum)
      · exact .inr (.inr h)

/-! ### Assignable types -/

/-- What is copied by an assignment is primitive. -/
theorem primitive_of_assignment {name : String} (h : name ∈ assignmentTypes) :
    name ∈ primitiveNames := by
  have hsubset : ∀ name ∈ assignmentTypes, name ∈ primitiveNames := by decide
  exact hsubset name h

/-- An assignable type is a nullable form of an assignable one, or it is not generic and has the
name of an assignable one. -/
theorem isAssignable_iff : tree.isAssignable ↔
    (∃ inner, nullableArgument? tree.facts tree.arguments = some inner ∧
      inner.facts.fullName ∈ nullableAssignmentTypes) ∨
    (nullableArgument? tree.facts tree.arguments = none ∧ tree.facts.isGeneric = false ∧
      tree.facts.fullName ∈ assignmentTypes) := by
  unfold isAssignable
  cases nullableArgument? tree.facts tree.arguments <;> simp

/-! ### Primitive types -/

namespace Regular

variable {tree : TypeTree}

/-- The facts of a regular type are regular. -/
theorem isRegular (h : (TypeTree.type facts arguments).Regular) :
    facts.IsRegular arguments.length := by
  cases h with
  | type hfacts _ => exact hfacts

/-- The definition of a nullable type is no primitive. -/
theorem nullableDefinition_not_primitive : TypeRef.nullableDefinition ∉ primitiveNames :=
  fun h => arityMark_notMem_of_primitive h (by decide +kernel)

/-- A regular type with a primitive name is no nullable form. -/
theorem nullableArgument?_eq_none (h : (TypeTree.type facts arguments).Regular)
    (hname : facts.fullName ∈ primitiveNames) : nullableArgument? facts arguments = none := by
  refine Option.eq_none_iff_forall_ne_some.mpr fun inner hinner => ?_
  obtain ⟨hdefinition, rfl⟩ := nullableArgument?_eq_some_iff.mp hinner
  have hnullable := (h.isRegular.nullable hdefinition rfl).1
  exact nullableDefinition_not_primitive (hnullable ▸ hname)

/-- A regular type with a primitive name is primitive. -/
theorem classify_primitive (h : tree.Regular) (hname : tree.facts.fullName ∈ primitiveNames) :
    tree.classify settings
      = .ok (.primitive (primitiveKind tree.facts.fullName) tree.facts.name) := by
  cases h with
  | type hfacts harguments =>
    rw [classify, classifyAll_eq_map]
    refine classifyStep_of_primitive hname ?_
    have hnone := nullableArgument?_eq_none (.type hfacts harguments) hname
    rw [nullableArgument?_map, TypeTree.facts, hnone, Option.map_none]
  | array _ => exact absurd hname (brackets_not_primitive _ _)

/-- A regular nullable form has the nullable shape of its argument. -/
theorem classify_nullable (h : (TypeTree.type facts arguments).Regular) {inner : TypeTree}
    (hinner : nullableArgument? facts arguments = some inner) :
    (TypeTree.type facts arguments).classify settings
      = (inner.classify settings).map Shape.nullable := by
  obtain ⟨hdefinition, rfl⟩ := nullableArgument?_eq_some_iff.mp hinner
  have hname : (TypeTree.type facts [inner]).facts.fullName ∉ primitiveNames :=
    (h.isRegular.nullable hdefinition rfl).1 ▸ nullableDefinition_not_primitive
  have houtcome : nullableArgument? (TypeTree.type facts [inner]).facts
      ([inner].map (classify settings)) = some (inner.classify settings) := by
    rw [nullableArgument?_map, TypeTree.facts, hinner, Option.map_some]
  rw [classify, classifyAll_eq_map, classifyStep_of_not_primitive _ _ _ _ hname]
  simp only [classifyOther, houtcome]
  rfl

end Regular

/-! ### Where the rules disagree -/

/-- An entity that is a collection of several arguments, or a box. -/
structure IsEntityWithParts (settings : Settings) (tree : TypeTree) : Prop where
  generic : tree.facts.isGeneric
  entity : tree.facts.implements settings.entityInterface
  parts : (tree.facts.isCollection ∧ 1 < tree.arguments.length) ∨
    tree.facts.definition? = some settings.boxDefinition

/-- Such an entity, or a collection of one, of a collection of one, and so on. -/
inductive HoldsEntityWithParts (settings : Settings) : TypeTree → Prop
  | here {tree : TypeTree} : tree.IsEntityWithParts settings → HoldsEntityWithParts settings tree
  | element {tree argument : TypeTree} : tree.IsCollectionOf argument →
      HoldsEntityWithParts settings argument → HoldsEntityWithParts settings tree

/-- An entity with parts is generic. -/
theorem HoldsEntityWithParts.isGeneric (h : tree.HoldsEntityWithParts settings) :
    tree.facts.isGeneric := by
  cases h with
  | here hentity => exact hentity.generic
  | element hof _ => exact hof.1

/-- Arrays are not assignable: their names end in brackets. -/
theorem isAssignable_arrayOf (element : TypeTree) : (arrayOf element).isAssignable = false := by
  have hname : qualified element.facts.space? (element.facts.name ++ "[]") ∉ assignmentTypes :=
    fun h => brackets_not_primitive _ _ (primitive_of_assignment h)
  simpa [arrayOf, isAssignable, TypeTree.facts, TypeTree.arguments, nullableArgument?,
    TypeFacts.isGeneric, TypeFacts.fullName] using hname

/-- Arrays are not supported. -/
theorem isSupported_arrayOf (element : TypeTree) :
    (arrayOf element).isSupported settings = false := by
  have hfacts : (arrayOf element).facts
      = { name := element.facts.name ++ "[]", space? := element.facts.space?, isArray := true } :=
    rfl
  show supportedStep settings (arrayOf element) [] = false
  simp [supportedStep, hfacts, isAssignable_arrayOf, TypeFacts.implements]

/-- A nullable form that is supported is assignable, so its argument is primitive. -/
theorem supported_of_nullable (hregular : (type facts arguments).Regular) {argument : TypeTree}
    (hargument : nullableArgument? facts arguments = some argument)
    (hwhy : (type facts arguments).isAssignable ∨ facts.isEnum ∨
      facts.implements settings.entityInterface)
    {inner : Shape} (hinner : argument.classify settings = .ok inner) :
    inner.unsupportedNames = [] := by
  cases hregular with
  | type hfacts harguments =>
    obtain ⟨hdefinition, rfl⟩ := nullableArgument?_eq_some_iff.mp hargument
    have hgeneric : facts.isGeneric := Option.isSome_iff_exists.mpr ⟨_, hdefinition⟩
    -- Of the three reasons to be supported, a nullable form can have the first one only.
    obtain hassignable | henum | hentity := hwhy
    · obtain ⟨other, hother, hname⟩ | ⟨hnone, -⟩ := isAssignable_iff.mp hassignable
      · obtain rfl : argument = other := Option.some.inj (hargument.symm.trans hother)
        have hprimitive := primitive_of_assignment (List.mem_of_mem_filter hname)
        rw [(harguments _ (List.mem_singleton_self _)).classify_primitive hprimitive] at hinner
        obtain rfl := Except.ok.inj hinner
        rfl
      · exact absurd (hnone.symm.trans hargument) (Option.some_ne_none _).symm
    · exact absurd ((hfacts.notEnum hgeneric).symm.trans henum) Bool.false_ne_true
    · have hinterfaces := (hfacts.nullable hdefinition rfl).2
      simp [TypeFacts.implements, hinterfaces] at hentity

/-- The shape of a collection of one argument is made of that of the argument. -/
theorem supported_of_collection {argument : TypeTree}
    (hof : (type facts arguments).IsCollectionOf argument)
    (hargument : ∀ element, argument.classify settings = .ok element →
      element.unsupportedNames = [] ∨ argument.HoldsEntityWithParts settings)
    {shape : Shape} (hshape : (type facts arguments).classify settings = .ok shape) :
    shape.unsupportedNames = [] ∨ (type facts arguments).HoldsEntityWithParts settings := by
  have ⟨hgeneric, hcollection, harguments⟩ := hof
  obtain rfl : arguments = [argument] := harguments
  have helement {element : Shape} (h : argument.classify settings = .ok element) :
      element.unsupportedNames = [] ∨ (type facts [argument]).HoldsEntityWithParts settings :=
    (hargument element h).imp_right (.element hof)
  -- The rules that come before that of collections find no unsupported part of their own.
  cases classified hshape with
  | primitive => exact .inl rfl
  | nullable hinner =>
    obtain ⟨-, hinner⟩ := nullableArgument?_eq_some_iff.mp hinner
    have hresult := helement (List.cons.inj hinner).1
    exact hresult
  | array _ helement => cases helement
  | dictionary _ _ _ harguments => cases (List.cons.inj harguments).2
  | collection _ _ _ harguments =>
    have hresult := helement (List.cons.inj harguments).1
    exact hresult
  | container _ _ hnone => cases hnone hcollection
  | plain _ _ hnone => cases hnone hgeneric hcollection

/-- A generic type that is no nullable form is supported as an entity only. -/
theorem implements_of_isGeneric (hfacts : facts.IsRegular arguments.length)
    (hnullable : nullableArgument? facts arguments = none) (hgeneric : facts.isGeneric)
    (hwhy : (type facts arguments).isAssignable ∨ facts.isEnum ∨
      facts.implements settings.entityInterface) :
    facts.implements settings.entityInterface := by
  obtain hassignable | henum | hentity := hwhy
  · obtain ⟨inner, hinner, -⟩ | ⟨-, hplain, -⟩ := isAssignable_iff.mp hassignable
    · exact absurd (hnullable.symm.trans hinner) (Option.some_ne_none _).symm
    · exact absurd (hplain.symm.trans hgeneric) Bool.false_ne_true
  · exact absurd ((hfacts.notEnum hgeneric).symm.trans henum) Bool.false_ne_true
  · exact hentity

/-- The dictionary types of the runtime implement no interface, so none is an entity. -/
theorem not_implements_of_dictionary (hfacts : facts.IsRegular arguments.length)
    {definition : String} (hdefinition : facts.definition? = some definition)
    (hmem : definition ∈ dictionaryDefinitions) (hlength : arguments.length = 2)
    (interface : String) : facts.implements interface = false := by
  simp [TypeFacts.implements, hfacts.dictionary definition hmem hdefinition hlength]

/-- What is no collection of one argument is an entity with parts, if its shape is made of those of
its parts. -/
theorem supported_of_not_collection (hregular : (type facts arguments).Regular)
    (hnot : ∀ argument, ¬ (type facts arguments).IsCollectionOf argument)
    (hwhy : (type facts arguments).isAssignable ∨ facts.isEnum ∨
      facts.implements settings.entityInterface)
    {shape : Shape} (hshape : (type facts arguments).classify settings = .ok shape) :
    shape.unsupportedNames = [] ∨ (type facts arguments).IsEntityWithParts settings := by
  have hfacts := hregular.isRegular
  have hnone (h : nullableArgument? facts (arguments.map (classify settings)) = none) :
      nullableArgument? facts arguments = none := by
    rwa [nullableArgument?_map, Option.map_eq_none_iff] at h
  cases classified hshape with
  | primitive => exact .inl rfl
  | nullable hinner =>
    rw [nullableArgument?_map] at hinner
    obtain ⟨argument, hargument, hclassify⟩ := Option.map_eq_some_iff.mp hinner
    have hinner := supported_of_nullable hregular hargument hwhy hclassify
    exact .inl hinner
  | array _ helement => cases helement
  | dictionary _ hdefinition hmem hpair =>
    have hlength : arguments.length = 2 := by
      simpa [TypeTree.arguments] using congrArg List.length hpair
    have hnullable : nullableArgument? facts arguments = none := by
      refine Option.eq_none_iff_forall_ne_some.mpr fun inner hinner => ?_
      rw [(nullableArgument?_eq_some_iff.mp hinner).2] at hlength
      cases hlength
    have hgeneric : facts.isGeneric := Option.isSome_iff_exists.mpr ⟨_, hdefinition⟩
    -- A dictionary would have to be an entity, and it implements nothing.
    have hentity := implements_of_isGeneric hfacts hnullable hgeneric hwhy
    have hfalse : facts.implements settings.entityInterface = false :=
      not_implements_of_dictionary hfacts hdefinition hmem hlength _
    exact absurd (hfalse.symm.trans hentity) Bool.false_ne_true
  | collection hnullable hgeneric hcollection hcons =>
    have hentity := implements_of_isGeneric hfacts (hnone hnullable) hgeneric hwhy
    refine .inr ⟨hgeneric, hentity, .inl ⟨hcollection, ?_⟩⟩
    -- Without arguments it is no collection, and with a single one it is one of that.
    cases arguments with
    | nil => cases hcons
    | cons argument others =>
      cases others with
      | nil => exact absurd ⟨hgeneric, hcollection, rfl⟩ (hnot argument)
      | cons _ _ => simp [TypeTree.arguments]
  | container hnullable hdefinition _ _ =>
    have hgeneric : facts.isGeneric := Option.isSome_iff_exists.mpr ⟨_, hdefinition⟩
    have hentity := implements_of_isGeneric hfacts (hnone hnullable) hgeneric hwhy
    exact .inr ⟨hgeneric, hentity, .inr hdefinition⟩
  | plain hname hnullable _ hplain =>
    cases hplain with
    | unsupported henum hinterface =>
      -- The rules for shapes have ruled out every reason for which it could be supported.
      obtain hassignable | henum' | hentity := hwhy
      · obtain ⟨inner, hinner, -⟩ | ⟨-, -, hassigned⟩ := isAssignable_iff.mp hassignable
        · exact absurd ((hnone hnullable).symm.trans hinner) (Option.some_ne_none _).symm
        · exact absurd (primitive_of_assignment hassigned) hname
      · exact absurd (henum.symm.trans henum') Bool.false_ne_true
      · exact absurd (hinterface.symm.trans hentity) Bool.false_ne_true
    | _ => exact .inl rfl

/-- **Supported types have supported shapes**, unless they hold an entity that is a collection of
several arguments or a box. -/
theorem supported_of_isSupported (hregular : tree.Regular) (hsupported : tree.isSupported settings)
    {shape : Shape} (hshape : tree.classify settings = .ok shape) :
    shape.unsupportedNames = [] ∨ tree.HoldsEntityWithParts settings := by
  -- The induction is on how the type is built: a collection leads to its only argument.
  induction hregular generalizing shape with
  | array _ _ =>
    rw [isSupported_arrayOf] at hsupported
    cases hsupported
  | @type facts arguments hfacts harguments ih =>
    obtain ⟨argument, hof, hargument⟩ | ⟨hnot, hwhy⟩ := isSupported_cases hsupported
    · have hmem : argument ∈ arguments := by
        rw [show arguments = [argument] from hof.2.2]
        exact List.mem_singleton_self argument
      exact supported_of_collection hof (fun _ => ih argument hmem hargument) hshape
    · have hregular : (type facts arguments).Regular := .type hfacts harguments
      exact (supported_of_not_collection hregular hnot hwhy hshape).imp_right .here

end TypeTree

/-! ### Bags that do not depend on the failure policy -/

section PolicyFree

variable {α β : Type}

/-- Whether or not unsupported types are to fail, nothing is said and the outcome is the same; it
fails only where a type has no shape. -/
def PolicyFree (report : Bool → Report GenerateError α) : Prop :=
  ∃ outcome : Except ClassifyError α,
    ∀ strict, report strict = Report.ofExcept (outcome.mapError .classify)

/-- A value does not depend on the policy. -/
theorem policyFree_pure (value : α) : PolicyFree fun _ => pure value :=
  ⟨.ok value, fun _ => rfl⟩

/-- Steps that do not depend on the policy do so together. -/
theorem PolicyFree.bind {report : Bool → Report GenerateError α}
    {next : Bool → α → Report GenerateError β} (h : PolicyFree report)
    (hnext : ∀ value, PolicyFree fun strict => next strict value) :
    PolicyFree fun strict => report strict >>= next strict := by
  obtain ⟨outcome, h⟩ := h
  cases outcome with
  -- After an error, nothing is asked any more.
  | error error =>
    refine ⟨.error error, fun strict => ?_⟩
    show report strict >>= next strict = _
    rw [h strict]
    rfl
  | ok value =>
    obtain ⟨result, hresult⟩ := hnext value
    refine ⟨result, fun strict => ?_⟩
    show report strict >>= next strict = _
    rw [h strict, ← hresult strict]
    rfl

/-- Steps over a list that do not depend on the policy do so together. -/
theorem PolicyFree.mapM {step : Bool → α → Report GenerateError β} {items : List α}
    (h : ∀ item ∈ items, PolicyFree fun strict => step strict item) :
    PolicyFree fun strict => items.mapM (step strict) := by
  induction items with
  | nil => exact policyFree_pure []
  | cons item items ih =>
    obtain ⟨hfirst, hothers⟩ := List.forall_mem_cons.mp h
    simp only [List.mapM_cons]
    exact hfirst.bind fun first => (ih hothers).bind fun others => policyFree_pure (first :: others)

variable {graph : TypeGraph} {settings : Settings}

/-- The declaration of a type whose shape is supported, if it has one. -/
theorem policyFree_propertyType (target : Target) (required : Bool) {type : TypeRef}
    (h : ∀ shape, graph.classify settings type = .ok shape → shape.unsupportedNames = []) :
    PolicyFree fun strict => propertyType graph settings target strict required type := by
  cases hshape : graph.classify settings type with
  | error error =>
    exact ⟨.error error, fun strict => propertyType_of_classify_error hshape⟩
  | ok shape =>
    obtain ⟨declaration, hdeclaration⟩ :=
      propertyType_of_supported target required hshape (h shape hshape)
    exact ⟨.ok declaration, hdeclaration⟩

/-- A bag does not depend on the policy if the supported ones of its properties have supported
shapes. -/
theorem policyFree_entityBag {properties : List OwnedProperty}
    (h : ∀ owned ∈ properties, (graph.tree owned.property.type).isSupported settings →
      ∀ shape, graph.classify settings owned.property.type = .ok shape →
        shape.unsupportedNames = [])
    (documentation : Documentation) (entityName : String) (summary? : Option String) :
    PolicyFree fun strict =>
      entityBag graph settings documentation strict entityName summary? properties := by
  refine PolicyFree.bind (PolicyFree.mapM fun owned howned => ?_) fun lines => policyFree_pure _
  -- The bag only declares the properties that pass the filter.
  rw [Name.mem_sortByName, List.mem_filter] at howned
  exact (policyFree_propertyType _ _ (h owned howned.1 howned.2)).bind fun _ => policyFree_pure _

end PolicyFree

/-! ### Catalogs of documents -/

variable {settings : Settings}

/-- The types of properties are regular. -/
theorem Catalog.ReadFrom.regular {catalog declared : Catalog}
    (h : catalog.ReadFrom declared settings) {entry : TypeEntry}
    (hentry : entry ∈ catalog.graph.entries) {property : Property}
    (hproperty : property ∈ entry.properties) : (catalog.graph.tree property.type).Regular := by
  obtain ⟨expression, hparse⟩ := h.denoted entry hentry property hproperty
  exact Expression.regular_of_denoted h.declared_isPlain h.isPlain h.facts
    (Expression.denoted_of_parse hparse)

/-- **The filter of bags and the rules for shapes agree** on the properties of a catalog, unless
their types hold an entity that is a collection of several arguments or a box: a supported type has
a supported shape, and a bag says nothing and does not depend on the failure policy. -/
theorem bag_filter_agrees {readSettings : Settings} {document : Yaml.Document} {catalog : Catalog}
    (h : Catalog.ofDocument readSettings document = .ok catalog) (settings : Settings) :
    (∀ entry ∈ catalog.graph.entries, ∀ property ∈ entry.properties,
      (catalog.graph.tree property.type).isSupported settings →
        ∀ shape, catalog.graph.classify settings property.type = .ok shape →
          shape.unsupportedNames = [] ∨
            (catalog.graph.tree property.type).HoldsEntityWithParts settings) ∧
    ∀ documentation entityName summary?, ∀ properties : List OwnedProperty,
      (∀ owned ∈ properties,
        (∃ entry ∈ catalog.graph.entries, owned.property ∈ entry.properties) ∧
          ¬ (catalog.graph.tree owned.property.type).HoldsEntityWithParts settings) →
        PolicyFree fun strict =>
          entityBag catalog.graph settings documentation strict entityName summary? properties := by
  obtain ⟨declared, hread⟩ := Catalog.readFrom_of_ofDocument h
  have hagree : ∀ entry ∈ catalog.graph.entries, ∀ property ∈ entry.properties,
      (catalog.graph.tree property.type).isSupported settings →
        ∀ shape, catalog.graph.classify settings property.type = .ok shape →
          shape.unsupportedNames = [] ∨
            (catalog.graph.tree property.type).HoldsEntityWithParts settings :=
    fun entry hentry property hproperty hsupported shape hshape =>
      TypeTree.supported_of_isSupported (hread.regular hentry hproperty) hsupported hshape
  refine ⟨hagree, fun documentation entityName summary? properties hproperties => ?_⟩
  refine policyFree_entityBag ?_ documentation entityName summary?
  intro owned howned hsupported shape hshape
  obtain ⟨⟨entry, hentry, hproperty⟩, hholds⟩ := hproperties owned howned
  exact (hagree entry hentry _ hproperty hsupported shape hshape).resolve_right hholds

/-- A pair is an entity and a collection; one property is a pair of an image and a number. -/
def pairText : String :=
  "types:\n"
    ++ "  - name: Pair\n"
    ++ "    type-parameters: [K, V]\n"
    ++ "    interfaces: [\"System.Collections.Generic.ICollection`1\", Rock.Data.IEntity]\n"
    ++ "  - name: Person\n"
    ++ "    properties:\n"
    ++ "      - name: Photos\n"
    ++ "        type: \"Pair<System.Drawing.Image, int>\"\n"
    ++ "      - name: Age\n"
    ++ "        type: int\n"

/-- A property of a catalog that is supported although its shape has an unsupported part. -/
def Catalog.HasHiddenImage (catalog : Catalog) : Prop :=
  ∃ entry ∈ catalog.graph.entries, ∃ property ∈ entry.properties,
    (catalog.graph.tree property.type).isSupported {} ∧
      (catalog.graph.classify {} property.type).map (·.unsupportedNames) = .ok ["Image"]

/-- A property of a catalog whose type is not generic. -/
def Catalog.HasPlainProperty (catalog : Catalog) : Prop :=
  ∃ entry ∈ catalog.graph.entries, ∃ property ∈ entry.properties,
    (catalog.graph.facts property.type).isGeneric = false

/-- The catalog with the pair is read, and has both a hidden image and a plain property. -/
theorem exists_read_pairText : ∃ catalog, Catalog.read {} "pairs.yaml" pairText = .ok catalog ∧
    catalog.HasHiddenImage ∧ catalog.HasPlainProperty := by
  -- The document is read once, for both properties.
  have hread : (Catalog.read {} "pairs.yaml" pairText).toOption.any (fun catalog =>
      (catalog.graph.entries.any fun entry => entry.properties.any fun property =>
        (catalog.graph.tree property.type).isSupported {} &&
          (catalog.graph.classify {} property.type).map (·.unsupportedNames) = .ok ["Image"]) &&
      catalog.graph.entries.any fun entry => entry.properties.any fun property =>
        !(catalog.graph.facts property.type).isGeneric) = true := by
    decide +kernel
  obtain ⟨catalog, hcatalog, hholds⟩ := Except.exists_of_any hread
  refine ⟨catalog, hcatalog, ?_⟩
  simpa [Catalog.HasHiddenImage, Catalog.HasPlainProperty] using hholds

/-- The pair passes the filter with its image hidden in it; the plain property has no unsupported
part. -/
theorem bag_filter_agrees_pairs : ∃ catalog,
    Catalog.read {} "pairs.yaml" pairText = .ok catalog ∧
    (∃ entry ∈ catalog.graph.entries, ∃ property ∈ entry.properties, ∃ shape,
      (catalog.graph.tree property.type).isSupported {} ∧
        catalog.graph.classify {} property.type = .ok shape ∧
        (shape.unsupportedNames = [] ∨
          (catalog.graph.tree property.type).HoldsEntityWithParts {})) ∧
    ∃ property, (catalog.graph.facts property.type).isGeneric = false ∧
      PolicyFree fun strict =>
        entityBag catalog.graph {} {} strict "Person" none [⟨none, property⟩] := by
  obtain ⟨catalog, hread, himage, hplain⟩ := exists_read_pairText
  obtain ⟨document, -, hdocument⟩ := Catalog.exists_ofDocument_of_read hread
  obtain ⟨hagree, hbag⟩ := bag_filter_agrees hdocument {}
  refine ⟨catalog, hread, ?_, ?_⟩
  · obtain ⟨entry, hentry, property, hproperty, hsupported, hnames⟩ := himage
    obtain ⟨shape, hshape, -⟩ := Except.map_eq_ok_iff.mp hnames
    exact ⟨entry, hentry, property, hproperty, shape, hsupported, hshape,
      hagree entry hentry property hproperty hsupported shape hshape⟩
  · obtain ⟨entry, hentry, property, hproperty, hgeneric⟩ := hplain
    refine ⟨property, hgeneric, hbag {} "Person" none [⟨none, property⟩] fun owned howned => ?_⟩
    obtain rfl := List.mem_singleton.mp howned
    refine ⟨⟨entry, hentry, hproperty⟩, fun hholds => ?_⟩
    exact absurd (hholds.isGeneric.symm.trans hgeneric) Bool.false_ne_true.symm

/-- The filter passes a property whose shape has an unsupported part. -/
theorem filter_passes_unsupported : ∃ catalog,
    Catalog.read {} "pairs.yaml" pairText = .ok catalog ∧
      ∃ entry ∈ catalog.graph.entries, ∃ property ∈ entry.properties,
        (catalog.graph.tree property.type).isSupported {} ∧
          ∃ shape, catalog.graph.classify {} property.type = .ok shape ∧
            shape.unsupportedNames = ["Image"] := by
  obtain ⟨catalog, hread, ⟨entry, hentry, property, hproperty, hsupported, hnames⟩, -⟩ :=
    exists_read_pairText
  exact ⟨catalog, hread, entry, hentry, property, hproperty, hsupported,
    Except.map_eq_ok_iff.mp hnames⟩

end TypeExport
