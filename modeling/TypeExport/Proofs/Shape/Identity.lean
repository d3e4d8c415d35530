import TypeExport.Proofs.Expression.Heads
import TypeExport.Proofs.Shape.Nesting

/-!
# Shapes and identities

An identity has the full names of a type and its arguments and nothing else, while the rules for
shapes look at interfaces, markers and definitions.  Over a scope that leaves no doubt about full
names, types with one identity still have one shape.

* `TypeTree.Alike` — two types have the same display name and the same shapes.
* `TypeTree.Named` — the types that are made of what names stand for (`named_of_parse`).
* `alike_of_identity` — by induction over pairs of such types, those with one identity are alike.
* `identity_decides_shape` — the shapes of what two texts denote.
* `identity_splits` — the doubts that a scope may leave.
-/

namespace TypeExport

open Expression (Scope PlainFacts HeadOf Kept IsDottedName)
open Name (withoutArity)

/-! ### What the rules look at -/

section

variable {tree tree' : TypeTree}

/-- Of a type itself, the rules look at its facts and its display name. -/
theorem classifyStep_congr (settings : Settings) (hfacts : tree.facts = tree'.facts)
    (hdisplay : tree.displayName = tree'.displayName)
    (element? : Option (Except ClassifyError Shape))
    (arguments : List (Except ClassifyError Shape)) :
    classifyStep settings tree element? arguments
      = classifyStep settings tree' element? arguments := by
  have hmetadata := Metadata.read_type_congr settings hfacts
  -- A type without parts shows its display name in its errors and where it is unsupported.
  have hplain : classifyPlain settings tree = classifyPlain settings tree' := by
    unfold classifyPlain classifyEnum readTypeMetadata
    rw [hfacts, hdisplay, hmetadata]
  unfold classifyStep
  rw [hfacts, hplain]

end

namespace TypeTree

/-! ### Types that are alike -/

/-- Two types have the same display name and, for all settings, the same shape or error. -/
structure Alike (tree tree' : TypeTree) : Prop where
  displayName : tree.displayName = tree'.displayName
  classify (settings : Settings) : tree.classify settings = tree'.classify settings

variable {facts facts' : TypeFacts} {arguments arguments' : List TypeTree}

/-- A tree is like itself. -/
theorem Alike.refl (tree : TypeTree) : Alike tree tree :=
  ⟨rfl, fun _ => rfl⟩

/-- Lists that correspond have the same values. -/
theorem map_eq_of_forall₂ {α : Type} {f : TypeTree → α}
    (h : List.Forall₂ (fun tree tree' => f tree = f tree') arguments arguments') :
    arguments.map f = arguments'.map f := by
  rwa [← List.forall₂_eq_eq_eq, List.forall₂_map_left_iff, List.forall₂_map_right_iff]

/-- Types with the same facts are alike if their arguments are. -/
theorem alike_type (h : List.Forall₂ Alike arguments arguments') :
    Alike (type facts arguments) (type facts arguments') := by
  have hnames : arguments.map displayName = arguments'.map displayName :=
    map_eq_of_forall₂ (h.imp fun _ _ halike => halike.displayName)
  have hdisplay : (type facts arguments).displayName = (type facts arguments').displayName := by
    rw [displayName, displayName, displayNames_eq_map, displayNames_eq_map, hnames]
  refine ⟨hdisplay, fun settings => ?_⟩
  -- The rules are given the shapes of the arguments, not the arguments.
  have hshapes : arguments.map (classify settings) = arguments'.map (classify settings) :=
    map_eq_of_forall₂ (h.imp fun _ _ halike => halike.classify settings)
  have hfacts : (type facts arguments).facts = (type facts arguments').facts := rfl
  rw [classify, classify, classifyAll_eq_map, classifyAll_eq_map, hshapes]
  exact classifyStep_congr settings hfacts hdisplay _ _

/-- A primitive type is known by its full name and its simple name. -/
theorem alike_primitive (hprimitive : facts.fullName ∈ primitiveNames)
    (hfull : facts.fullName = facts'.fullName) (hname : facts.name = facts'.name)
    (hdefinition : facts.definition? = none) (hdefinition' : facts'.definition? = none) :
    Alike (type facts []) (type facts' []) := by
  -- Neither the display name nor the shape of a primitive type looks further than its two names.
  have hdisplay {facts : TypeFacts} (hdefinition : facts.definition? = none) :
      (type facts []).displayName = facts.name := by
    simp [displayName, TypeFacts.isGeneric, hdefinition]
  have hshape {facts : TypeFacts} (hprimitive : facts.fullName ∈ primitiveNames)
      (settings : Settings) : (type facts []).classify settings
        = .ok (.primitive (primitiveKind facts.fullName) facts.name) := by
    rw [classify]
    refine classifyStep_of_primitive hprimitive ?_
    simp [nullableArgument?, classifyAll]
  constructor
  · rw [hdisplay hdefinition, hdisplay hdefinition', hname]
  · intro settings
    rw [hshape hprimitive, hshape (hfull ▸ hprimitive), hfull, hname]

/-- Arrays of alike elements are alike. -/
theorem alike_array {element element' : TypeTree} (h : Alike element element') :
    Alike (arrayOf element) (arrayOf element') where
  displayName := by simp only [arrayOf, displayName, if_true, h.displayName]
  classify settings := by rw [classify_arrayOf, classify_arrayOf, h.classify]

/-! ### Types made of names -/

/-- The types that are made of what names stand for, and of arrays. -/
inductive Named (scope : Scope) : TypeTree → Prop
  | plain {facts : TypeFacts} : PlainFacts scope facts → Named scope (type facts [])
  | constructed {name : String} {head : GenericHead} {arguments : List TypeTree} :
      IsDottedName name.toList → HeadOf scope name arguments.length head → arguments ≠ [] →
        (∀ argument ∈ arguments, Named scope argument) →
          Named scope (type (genericFacts head) arguments)
  | array {element : TypeTree} : Named scope element → Named scope (arrayOf element)

variable {scope : Scope}

/-- A generic type of named arguments is named. -/
theorem named_generic {name : String} {head : GenericHead} {arguments : List TypeRef}
    (hname : IsDottedName name.toList) (hhead : HeadOf scope name arguments.length head)
    (hne : arguments ≠ [])
    (harguments : ∀ argument ∈ arguments, Named scope (scope.catalog.graph.tree argument)) :
    Named scope (scope.catalog.graph.tree (.generic head arguments)) := by
  rw [TypeGraph.tree_generic]
  refine .constructed hname ?_ ?_ ?_
  · rwa [List.length_map]
  · simpa using hne
  · simpa only [List.forall_mem_map] using harguments

/-- What a text denotes is made of what names stand for. -/
theorem named_of_parse (hscope : scope.IsUnambiguous) {text : String} {type : TypeRef}
    (h : scope.parse text = .ok type) : Named scope (scope.catalog.graph.tree type) := by
  have hkept : Kept scope fun type => Named scope (scope.catalog.graph.tree type) :=
    { name := by
        intro name arguments type hname harguments hresolve
        -- A name without arguments stands for a type of its own, and one with some for a generic
        -- type.
        by_cases hne : arguments = []
        · subst hne
          obtain ⟨facts, htree, hfacts⟩ :=
            Expression.plainFacts_of_resolvePlain hscope hname hresolve
          rw [htree]
          exact .plain hfacts
        · have hgeneric : scope.resolveGeneric name arguments = .ok type := by
            unfold Scope.resolve at hresolve
            split at hresolve
            · exact absurd rfl hne
            · exact hresolve
          obtain ⟨head, rfl, hhead⟩ := Expression.headOf_of_resolveGeneric hgeneric
          exact named_generic hname hhead hne harguments
      nullable := by
        intro inner hinner
        -- The mark of a nullable type is short for its built-in name.
        have hname : IsDottedName "Nullable".toList :=
          Expression.IsSegment.isDottedName (by decide)
        exact named_generic hname (.builtIn rfl) (List.cons_ne_nil _ _) (by simpa using hinner)
      array := .array }
  exact hkept.of_parse h

/-! ### Types with one identity -/

/-- The identity of a type is its full name with those of its arguments. -/
theorem identity_type (facts : TypeFacts) (arguments : List TypeTree) :
    (type facts arguments).identity = .named facts.fullName (arguments.map identity) := by
  rw [identity, identities_eq_map]

/-- The identity of an array is that of its element, as an array. -/
theorem identity_arrayOf (element : TypeTree) :
    (arrayOf element).identity = .array element.identity := by
  rw [arrayOf, identity, if_pos rfl]

/-- Arguments with the same identities are alike one by one, if each is alike to what has its
identity. -/
theorem forall₂_alike
    (h : ∀ argument ∈ arguments, ∀ tree, Named scope tree →
      argument.identity = tree.identity → Alike argument tree)
    (hnamed : ∀ argument ∈ arguments', Named scope argument)
    (hidentities : arguments.map identity = arguments'.map identity) :
    List.Forall₂ Alike arguments arguments' := by
  -- The induction is on the first list; equal identities make the second one as long.
  induction arguments generalizing arguments' with
  | nil =>
    obtain rfl : arguments' = [] := List.map_eq_nil_iff.mp hidentities.symm
    exact .nil
  | cons argument rest ih =>
    cases arguments' with
    | nil => cases hidentities
    | cons argument' rest' =>
      obtain ⟨hfirst, hothers⟩ := List.forall_mem_cons.mp h
      obtain ⟨hnamed', hnamedRest⟩ := List.forall_mem_cons.mp hnamed
      obtain ⟨hidentity, hidentities⟩ := List.cons.inj hidentities
      exact .cons (hfirst argument' hnamed' hidentity) (ih hothers hnamedRest hidentities)

/-- **Types with one identity are alike.** -/
theorem alike_of_identity (hscope : scope.IsUnambiguous) {tree tree' : TypeTree}
    (h : Named scope tree) (h' : Named scope tree') (hidentity : tree.identity = tree'.identity) :
    Alike tree tree' := by
  -- The induction is over pairs: the first type by its parts, the second by what it may be.
  induction h generalizing tree' with
  | @plain facts hfacts =>
    rw [identity_type] at hidentity
    cases h' with
    | plain hfacts' =>
      rw [identity_type] at hidentity
      have hfull := (Identity.named.inj hidentity).1
      -- Primitive types may be declared and built in under one full name, others may not.
      by_cases hprimitive : facts.fullName ∈ primitiveNames
      · refine alike_primitive hprimitive hfull ?_ (hfacts.definition_eq_none hscope)
          (hfacts'.definition_eq_none hscope)
        rw [hfacts.name_of_primitive hprimitive, hfacts'.name_of_primitive (hfull ▸ hprimitive),
          hfull]
      · rw [hfacts.eq_of_fullName hscope hfacts' hfull hprimitive]
        exact .refl _
    | constructed _ _ hne _ =>
      rw [identity_type] at hidentity
      exact absurd (List.map_eq_nil_iff.mp (Identity.named.inj hidentity).2.symm) hne
    | array _ =>
      rw [identity_arrayOf] at hidentity
      cases hidentity
  | constructed hname hhead hne _ ih =>
    rw [identity_type] at hidentity
    cases h' with
    | plain _ =>
      rw [identity_type] at hidentity
      exact absurd (List.map_eq_nil_iff.mp (Identity.named.inj hidentity).2) hne
    | constructed hname' hhead' _ hnamed =>
      rw [identity_type] at hidentity
      obtain ⟨hfull, hidentities⟩ := Identity.named.inj hidentity
      -- One identity means as many arguments, so both heads are looked up for the same arity.
      have hlength := congrArg List.length hidentities
      rw [List.length_map, List.length_map] at hlength
      rw [hhead.eq_of_fullName hscope hname hname' (hlength ▸ hhead') hfull]
      exact alike_type (forall₂_alike (fun argument hmem tree => ih argument hmem) hnamed
        hidentities)
    | array _ =>
      rw [identity_arrayOf] at hidentity
      cases hidentity
  | array _ ih =>
    rw [identity_arrayOf] at hidentity
    cases h' with
    | plain _ | constructed _ _ _ _ =>
      rw [identity_type] at hidentity
      cases hidentity
    | array helement' =>
      rw [identity_arrayOf] at hidentity
      exact alike_array (ih helement' (Identity.array.inj hidentity))

end TypeTree

/-! ### Texts that denote types with one identity -/

/-- **Identity decides the shape.**  Over a scope that leaves no doubt about full names, two texts
that denote types with one identity denote types with one shape, whatever the settings, or both
types have the same malformed marker. -/
theorem identity_decides_shape {scope : Scope} (hscope : scope.IsUnambiguous) {text text' : String}
    {type type' : TypeRef} (hparse : scope.parse text = .ok type)
    (hparse' : scope.parse text' = .ok type')
    (hidentity : (scope.catalog.graph.tree type).identity
      = (scope.catalog.graph.tree type').identity) (settings : Settings) :
    (∃ shape, scope.catalog.graph.classify settings type = .ok shape ∧
      scope.catalog.graph.classify settings type' = .ok shape) ∨
    ∃ error, scope.catalog.graph.classify settings type = .error (.metadata error) ∧
      scope.catalog.graph.classify settings type' = .error (.metadata error) := by
  have halike := TypeTree.alike_of_identity hscope (TypeTree.named_of_parse hscope hparse)
    (TypeTree.named_of_parse hscope hparse') hidentity
  have hsame : scope.catalog.graph.classify settings type
      = scope.catalog.graph.classify settings type' := halike.classify settings
  have hhas : scope.catalog.graph.Has type :=
    Expression.has_of_denoted rfl (Expression.denoted_of_parse hparse)
  have hfails := TypeGraph.failsOnly_classify hscope.flat hhas settings
  rw [← hsame]
  cases houtcome : scope.catalog.graph.classify settings type with
  | ok shape => exact .inl ⟨shape, rfl, rfl⟩
  | error error =>
    match error, hfails error houtcome with
    | .metadata error, _ => exact .inr ⟨error, rfl, rfl⟩

/-- A catalog with an entity, and a declared type with the name of a number. -/
def memberScope : Scope where
  catalog := ⟨⟨[
    { facts :=
        { name := "Member", space? := some "Rock.Model", interfaces := ["Rock.Data.IEntity"] } },
    { facts := { name := "Int32", space? := some "System" } }]⟩⟩

/-- No two names of the scope can be taken for each other. -/
theorem memberScope_isUnambiguous : memberScope.IsUnambiguous where
  parameters := rfl
  flat := by
    have hflat : ∀ entry ∈ memberScope.catalog.graph.entries, entry.element?.isNone ∧
        entry.arguments.isEmpty := by decide
    simpa [TypeGraph.IsFlat] using hflat
  definition := by decide
  fullNames := by decide +kernel
  box := by
    intro name place _ hplace hparameters _
    have hnone : ∀ entry ∈ memberScope.catalog.graph.entries,
        entry.facts.parameters.length ≠ 1 := by decide
    obtain ⟨entry, hentry, -⟩ := Catalog.find?_eq_some hplace
    rw [Catalog.factsAt_of_getElem? hentry] at hparameters
    exact absurd hparameters (hnone entry (List.mem_of_getElem? hentry))

/-- A dictionary of lists of members. -/
def memberLists (key : TypeRef) : TypeRef :=
  .generic (Scope.collectionHead "Dictionary`2")
    [key, .generic (Scope.collectionHead "List`1" [collectionInterface])
      [.nullable (.declared 0)]]

/-- Two texts denote different types of one identity, which have the same shape. -/
theorem identity_decides_shape_members :
    memberScope.parse "Dictionary<Int32, List<Member?>>" = .ok (memberLists (.declared 1)) ∧
    memberScope.parse
        "System.Collections.Generic.Dictionary<int, List<Nullable<Rock.Model.Member>>>"
      = .ok (memberLists (.system "Int32")) ∧
    (memberScope.catalog.graph.tree (memberLists (.declared 1))).identity
      = (memberScope.catalog.graph.tree (memberLists (.system "Int32"))).identity ∧
    ((∃ shape,
        memberScope.catalog.graph.classify {} (memberLists (.declared 1)) = .ok shape ∧
        memberScope.catalog.graph.classify {} (memberLists (.system "Int32")) = .ok shape) ∨
      ∃ error,
        memberScope.catalog.graph.classify {} (memberLists (.declared 1))
          = .error (.metadata error) ∧
        memberScope.catalog.graph.classify {} (memberLists (.system "Int32"))
          = .error (.metadata error)) := by
  have hscan : Expression.Token.scan "Dictionary<Int32, List<Member?>>".toList
      = .ok [⟨.name "Dictionary", 1⟩, ⟨.symbol '<', 11⟩, ⟨.name "Int32", 12⟩, ⟨.symbol ',', 17⟩,
          ⟨.name "List", 19⟩, ⟨.symbol '<', 23⟩, ⟨.name "Member", 24⟩, ⟨.symbol '?', 30⟩,
          ⟨.symbol '>', 31⟩, ⟨.symbol '>', 32⟩] := by decide
  have hscan' : Expression.Token.scan
      "System.Collections.Generic.Dictionary<int, List<Nullable<Rock.Model.Member>>>".toList
      = .ok [⟨.name "System.Collections.Generic.Dictionary", 1⟩, ⟨.symbol '<', 38⟩,
          ⟨.name "int", 39⟩, ⟨.symbol ',', 42⟩, ⟨.name "List", 44⟩, ⟨.symbol '<', 48⟩,
          ⟨.name "Nullable", 49⟩, ⟨.symbol '<', 57⟩, ⟨.name "Rock.Model.Member", 58⟩,
          ⟨.symbol '>', 75⟩, ⟨.symbol '>', 76⟩, ⟨.symbol '>', 77⟩] := by decide
  have hparse : memberScope.parse "Dictionary<Int32, List<Member?>>"
      = .ok (memberLists (.declared 1)) := Expression.parse_of_scan hscan rfl
  have hparse' : memberScope.parse
        "System.Collections.Generic.Dictionary<int, List<Nullable<Rock.Model.Member>>>"
      = .ok (memberLists (.system "Int32")) := Expression.parse_of_scan hscan' rfl
  have hidentity : (memberScope.catalog.graph.tree (memberLists (.declared 1))).identity
      = (memberScope.catalog.graph.tree (memberLists (.system "Int32"))).identity := by rfl
  exact ⟨hparse, hparse', hidentity,
    identity_decides_shape memberScope_isUnambiguous hparse hparse' hidentity {}⟩

/-- Two texts denote types with one identity and two shapes, although there are no open parameters
and the declared types have distinct full names. -/
def Expression.Scope.SplitsIdentity (scope : Scope) (text text' : String) (shape shape' : Shape) :
    Prop :=
  scope.parameters = [] ∧
    (scope.catalog.graph.entries.map fun entry => withoutArity entry.facts.fullName).Nodup ∧
    ∃ type type', scope.parse text = .ok type ∧ scope.parse text' = .ok type' ∧
      (scope.catalog.graph.tree type).identity = (scope.catalog.graph.tree type').identity ∧
      scope.catalog.graph.classify scope.settings type = .ok shape ∧
      scope.catalog.graph.classify scope.settings type' = .ok shape' ∧ shape ≠ shape'

/-- A catalog with a collection that has the full name of the box, but another simple name. -/
def boxScope : Scope where
  catalog := ⟨⟨[{
    facts :=
      { name := "Utility.ValidPropertiesBox`1", space? := some "Rock.ViewModels"
        interfaces := [collectionInterface], parameters := ["T"] } }]⟩⟩

/-- A catalog that declares an array under the name of a truth value. -/
def arrayScope : Scope where
  catalog := ⟨⟨[{
    facts := { name := "Boolean", space? := some "System", isArray := true }
    element? := some (.system "Int32") }]⟩⟩

/-- A catalog that declares a type with arguments under the name of a list. -/
def listScope : Scope where
  catalog := ⟨⟨[{
    facts := { name := "List`1", space? := some "System.Collections.Generic" }
    arguments := [.system "Int32"] }]⟩⟩

/-- A catalog that declares a constructed type under the name of a number, and a generic type. -/
def holderScope : Scope where
  catalog := ⟨⟨[
    { facts := { name := "Int32", space? := some "System", definition? := some "Vendor.Number" } },
    { facts := { name := "Holder`1", space? := some "Vendor", parameters := ["T"] } }]⟩⟩

/-- **Split identities.**  A declared type may stand beside the box, be an array, have arguments or
come from a generic type.  Each of these gives two types one identity and two shapes. -/
theorem identity_splits :
    boxScope.SplitsIdentity "ValidPropertiesBox<int>" "Utility.ValidPropertiesBox<int>"
      (.container "ValidPropertiesBox" [.primitive .number "Int32"])
      (.collection (.primitive .number "Int32")) ∧
    arrayScope.SplitsIdentity "Boolean" "int[]" (.primitive .boolean "Boolean")
      (.array (.primitive .number "Int32")) ∧
    listScope.SplitsIdentity "List" "List<int>" (.unsupported "List`1")
      (.collection (.primitive .number "Int32")) ∧
    holderScope.SplitsIdentity "Holder<int>" "Holder<Int32>" (.unsupported "Holder<Int32>")
      (.unsupported "Holder<Int32<>>") := by
  -- One declared type for each condition on a scope that leaves no doubt.
  refine ⟨?box, ?array, ?list, ?holder⟩
  case box =>
    have hscan : Expression.Token.scan "ValidPropertiesBox<int>".toList
        = .ok [⟨.name "ValidPropertiesBox", 1⟩, ⟨.symbol '<', 19⟩, ⟨.name "int", 20⟩,
            ⟨.symbol '>', 23⟩] := by decide
    have hscan' : Expression.Token.scan "Utility.ValidPropertiesBox<int>".toList
        = .ok [⟨.name "Utility.ValidPropertiesBox", 1⟩, ⟨.symbol '<', 27⟩, ⟨.name "int", 28⟩,
            ⟨.symbol '>', 31⟩] := by decide
    exact ⟨rfl, by decide, _, _, Expression.parse_of_scan hscan rfl,
      Expression.parse_of_scan hscan' rfl, rfl, rfl, rfl, nofun⟩
  case array =>
    have hscan : Expression.Token.scan "Boolean".toList = .ok [⟨.name "Boolean", 1⟩] := by decide
    have hscan' : Expression.Token.scan "int[]".toList
        = .ok [⟨.name "int", 1⟩, ⟨.symbol '[', 4⟩, ⟨.symbol ']', 5⟩] := by decide
    exact ⟨rfl, by decide, _, _, Expression.parse_of_scan hscan rfl,
      Expression.parse_of_scan hscan' rfl, rfl, rfl, rfl, nofun⟩
  case list =>
    have hscan : Expression.Token.scan "List".toList = .ok [⟨.name "List", 1⟩] := by decide
    have hscan' : Expression.Token.scan "List<int>".toList
        = .ok [⟨.name "List", 1⟩, ⟨.symbol '<', 5⟩, ⟨.name "int", 6⟩, ⟨.symbol '>', 9⟩] := by decide
    exact ⟨rfl, by decide, _, _, Expression.parse_of_scan hscan rfl,
      Expression.parse_of_scan hscan' rfl, rfl, rfl, rfl, nofun⟩
  case holder =>
    have hscan : Expression.Token.scan "Holder<int>".toList
        = .ok [⟨.name "Holder", 1⟩, ⟨.symbol '<', 7⟩, ⟨.name "int", 8⟩, ⟨.symbol '>', 11⟩] := by
      decide
    have hscan' : Expression.Token.scan "Holder<Int32>".toList
        = .ok [⟨.name "Holder", 1⟩, ⟨.symbol '<', 7⟩, ⟨.name "Int32", 8⟩, ⟨.symbol '>', 13⟩] := by
      decide
    exact ⟨rfl, by decide, _, _, Expression.parse_of_scan hscan rfl,
      Expression.parse_of_scan hscan' rfl, rfl, rfl, rfl, by simp⟩

end TypeExport
