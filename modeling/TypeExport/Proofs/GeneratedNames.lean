import TypeExport.Proofs.Bag.File
import TypeExport.Proofs.Documentation.Links
import TypeExport.Workspace

/-!
# Names in generated code

The catalog adds the number of type parameters to the name of a type.  View models and bags are
declared without it; tables of an enumeration or of constants are declared under the name as it is
in the catalog, which is no identifier if the type has type parameters.

* `Headed` — how a declaration begins, below its comment.
* `IsDeclaredName` — an identifier, and type parameters behind it.
* `TypeFacts.HasIdentifiers` — a type that is declared under an identifier.
* `TypeFacts.HasIdentifiers.isDeclaredName_append_iff` — when a name of the catalog is a declared
  name.
* `headed_viewModel`, `headed_entityBag`, `headed_enumDeclaration`, `headed_constantTable` — how the
  generated declarations begin.
* `generated_names` — the names in them.
-/

namespace TypeExport

open Name (arityMark withoutArity)
open TypeScript (IsIdentifier isIdentifierChar)

/-! ### Declared names -/

/-- A text begins with a comment and a declaration: a keyword, a name, and what stands behind the
name. -/
def Headed (text comment keyword name behind : String) : Prop :=
  ∃ body, text = comment ++ keyword ++ name ++ behind ++ body

/-- An identifier, optionally followed by a list of type parameters. -/
def IsDeclaredName (written : String) : Prop :=
  ∃ name parameters, IsIdentifier name ∧ (∀ parameter ∈ parameters, IsIdentifier parameter) ∧
    written = name ++ parameterList parameters

/-- A type is declared under the name, and the names of the type and of its type parameters are
identifiers. -/
structure TypeFacts.HasIdentifiers (facts : TypeFacts) (name : String) : Prop where
  name_eq : facts.name = Catalog.arityName name facts.parameters
  name : IsIdentifier name
  parameters : ∀ parameter ∈ facts.parameters, IsIdentifier parameter

/-- A character of joined texts is one of the separator or of a text. -/
theorem mem_intercalate {separator : String} {items : List String} {c : Char}
    (h : c ∈ (separator.intercalate items).toList) :
    c ∈ separator.toList ∨ ∃ item ∈ items, c ∈ item.toList := by
  rw [String.toList_intercalate] at h
  refine (Text.mem_of_mem_intercalate h).imp_right fun ⟨chars, hchars, hin⟩ => ?_
  obtain ⟨item, hitem, rfl⟩ := List.mem_map.mp hchars
  exact ⟨item, hitem, hin⟩

/-- A declared name does not carry the number of its type parameters. -/
theorem IsDeclaredName.arityMark_notMem {written : String} (h : IsDeclaredName written) :
    arityMark ∉ written.toList := by
  obtain ⟨name, parameters, hname, hparameters, rfl⟩ := h
  have hnot {text : String} (htext : IsIdentifier text) : arityMark ∉ text.toList :=
    htext.notMem (by decide)
  rw [String.toList_append, List.mem_append, not_or]
  refine ⟨hnot hname, fun hin => ?_⟩
  unfold parameterList at hin
  split at hin
  · simp at hin
  · -- Around the parameters stand only brackets, commas and blanks.
    rw [String.toList_append, String.toList_append, List.mem_append, List.mem_append] at hin
    obtain (hopen | hlist) | hclose := hin
    · exact absurd hopen (by decide)
    · obtain hseparator | ⟨parameter, hparameter, hin⟩ := mem_intercalate hlist
      · exact absurd hseparator (by decide)
      · exact hnot (hparameters parameter hparameter) hin
    · exact absurd hclose (by decide)

/-- An identifier is a declared name. -/
theorem isDeclaredName_of_isIdentifier {name : String} (h : IsIdentifier name) :
    IsDeclaredName name :=
  ⟨name, [], h, nofun, String.append_empty.symm⟩

namespace TypeFacts.HasIdentifiers

variable {facts : TypeFacts} {name : String}

/-- A name that is made of an identifier has no arity mark. -/
theorem arityMark_notMem (h : facts.HasIdentifiers name) : arityMark ∉ name.toList :=
  h.name.notMem (by decide)

/-- A name with its parameters is a declared name. -/
theorem isDeclaredName (h : facts.HasIdentifiers name) :
    IsDeclaredName (name ++ parameterList facts.parameters) :=
  ⟨name, facts.parameters, h.name, h.parameters, rfl⟩

/-- The name in the catalog, with letters behind it, is a declared name exactly if the type has no
type parameters. -/
theorem isDeclaredName_append_iff (h : facts.HasIdentifiers name) {ending : String}
    (hending : ending.toList.all isIdentifierChar) :
    IsDeclaredName (facts.name ++ ending) ↔ facts.parameters = [] := by
  constructor
  · intro hdeclared
    by_contra hparameters
    -- Otherwise the name in the catalog would show how many type parameters there are.
    have hshown := (Catalog.arityMark_mem_arityName_iff h.arityMark_notMem facts.parameters).mpr
      hparameters
    apply hdeclared.arityMark_notMem
    rw [String.toList_append, h.name_eq]
    exact List.mem_append_left _ hshown
  · intro hparameters
    have hname : facts.name = name := by rw [h.name_eq, hparameters, Catalog.arityName_nil]
    rw [hname]
    exact isDeclaredName_of_isIdentifier (h.name.append hending)

end TypeFacts.HasIdentifiers

/-! ### Declarations -/

section

variable {graph : TypeGraph} {settings : Settings} {documentation : Documentation} {strict : Bool}
  {type : TypeRef}

/-- A view model is headed by its summary, the keyword of a type and the declared name. -/
theorem headed_viewModel {unit : List TypeRef} {declaration : Declaration}
    (h : (viewModel graph settings documentation strict unit type).outcome = .ok declaration) :
    Headed declaration.text
      (typeScriptComment (documentation.typeSummary? (graph.facts type).fullName))
      "export type " (graph.tree type).declaredName " = \x7b\n" := by
  obtain ⟨lines, htext, -⟩ := of_viewModel_eq_ok h
  refine ⟨"\n".intercalate lines ++ "\x7d;\n", ?_⟩
  rw [htext, viewModelText]
  simp only [String.append_assoc]

/-- A bag is headed by its summary, the keyword of a class, its own name and its base. -/
theorem headed_entityBag {entityName : String} {summary? : Option String}
    {properties : List OwnedProperty} {declaration : Declaration}
    (h : (entityBag graph settings documentation strict entityName summary? properties).outcome
      = .ok declaration) :
    Headed declaration.text (cSharpComment summary? 4 ++ "    ") "public class "
      (bagName entityName) (" : " ++ settings.entityBagBase ++ "\n    \x7b\n") := by
  obtain ⟨ordered, lines, -, -, -, htext, -⟩ := of_entityBag_eq_ok h
  refine ⟨"\n".intercalate (lines.map (·.text)) ++ "    \x7d\n", ?_⟩
  have hkeyword : "    public class " = "    " ++ "public class " := by decide
  rw [htext, bagClass, hkeyword]
  simp only [String.append_assoc]

/-- A table of constants is headed by its summary, the keyword of a constant and the name of
the class. -/
theorem headed_constantTable (graph : TypeGraph) (documentation : Documentation) (type : TypeRef) :
    Headed (constantTable graph documentation type)
      (typeScriptComment (documentation.typeSummary? (graph.facts type).fullName))
      "export const " (graph.facts type).name " = \x7b\n" := by
  let ordered := Name.sortByName (fun constant : Constant => constant.name) (graph.constants type)
  refine ⟨String.join (ordered.map (constantEntry documentation (graph.facts type).fullName))
    ++ "\x7d;\n", ?_⟩
  simp only [constantTable, ordered, String.append_assoc]

/-- A table of values is headed by its comment and the name of the enumeration. -/
theorem headed_valueTable (comment name : String) (entries : List String) :
    Headed (comment ++ valueTable name entries) comment "export const " name " = \x7b\n" := by
  refine ⟨tableEntries entries ++ "\x7d as const;\n", ?_⟩
  unfold valueTable
  simp only [String.append_assoc]

/-- A table of descriptions is headed by its comment, the extended name and its type. -/
theorem headed_descriptionTable (comment name : String) (entries : List String) :
    Headed (comment ++ descriptionTable name entries) comment "export const "
      (name ++ "Description") ": Record<number, string> = \x7b\n" := by
  have hending : "Description: Record<number, string> = \x7b\n"
      = "Description" ++ ": Record<number, string> = \x7b\n" := by decide
  refine ⟨tableEntries entries ++ "\x7d;\n", ?_⟩
  unfold descriptionTable
  rw [hending]
  simp only [String.append_assoc]

/-- The type name of an enumeration is headed by its comment and the name. -/
theorem headed_enumAlias (comment name : String) (isFlags : Bool) :
    Headed (comment ++ enumAlias name isFlags) comment "export type " name " = " := by
  unfold enumAlias
  cases isFlags with
  | true =>
    have hending : " = number;\n" = " = " ++ "number;\n" := by decide
    refine ⟨"number;\n", ?_⟩
    rw [if_pos rfl, hending]
    simp only [String.append_assoc]
  | false =>
    have hending : " = typeof " = " = " ++ "typeof " := by decide
    refine ⟨"typeof " ++ name ++ "[keyof typeof " ++ name ++ "];\n", ?_⟩
    rw [if_neg Bool.false_ne_true, hending]
    simp only [String.append_assoc]

/-- An enumeration is declared as two tables and a type, all under its name. -/
theorem headed_enumDeclaration {text : String}
    (h : enumDeclaration graph settings documentation type = .ok text) :
    ∃ metadata values descriptions typeName,
      Metadata.read settings (.type (graph.tree type)) = .ok metadata ∧
      text = "\n".intercalate [values, descriptions, typeName] ∧
      Headed values
        (typeScriptComment (documentation.typeSummary? (graph.facts type).fullName)
          ++ if metadata.isObsolete then deprecationMark metadata.obsoleteMessage? 0 else "")
        "export const " (graph.facts type).name " = \x7b\n" ∧
      Headed descriptions
        (typeScriptComment (documentation.typeSummary? (graph.facts type).fullName))
        "export const " ((graph.facts type).name ++ "Description")
        ": Record<number, string> = \x7b\n" ∧
      Headed typeName
        (typeScriptComment (documentation.typeSummary? (graph.facts type).fullName))
        "export type " (graph.facts type).name " = " := by
  obtain ⟨metadata, hmetadata, h⟩ := Except.bind_eq_ok_iff.mp h
  obtain ⟨members, -, h⟩ := Except.bind_eq_ok_iff.mp h
  exact ⟨metadata, _, _, _, hmetadata, (Except.ok.inj h).symm, headed_valueTable _ _ _,
    headed_descriptionTable _ _ _, headed_enumAlias _ _ _⟩

end

/-! ### Catalogs -/

/-- **Generated names.**  For a type that is declared under an identifier, the name of a view model
is that identifier with the type parameters behind it, and the name of a bag is the identifier with
`Bag` behind it.  The tables and the type of an enumeration and a table of constants have the name
of the catalog, which is a declared name exactly if the type has no type parameters. -/
theorem generated_names {readSettings : Settings} {document : Yaml.Document} {catalog : Catalog}
    (hdocument : Catalog.ofDocument readSettings document = .ok catalog)
    {place : Nat} {entry : TypeEntry} (hentry : catalog.graph.entries[place]? = some entry)
    {name : String} (hnames : entry.facts.HasIdentifiers name)
    (settings : Settings) (documentation : Documentation) :
    let workspace : Workspace := { settings, catalog, documentation }
    let comment := typeScriptComment (documentation.typeSummary? entry.facts.fullName)
    (∀ strict unit declaration,
      (viewModel catalog.graph settings documentation strict unit (.declared place)).outcome
        = .ok declaration →
      ∃ written, IsDeclaredName written ∧
        written = name ++ parameterList entry.facts.parameters ∧
        Headed declaration.text comment "export type " written " = \x7b\n") ∧
    (∀ strict summary? declaration,
      (workspace.entityBag strict summary? (.declared place)).outcome = .ok declaration →
      ∃ written, IsDeclaredName written ∧ written = name ++ "Bag" ∧
        Headed declaration.text (cSharpComment summary? 4 ++ "    ") "public class " written
          (" : " ++ settings.entityBagBase ++ "\n    \x7b\n")) ∧
    (∀ text, enumDeclaration catalog.graph settings documentation (.declared place) = .ok text →
      ∃ mark values descriptions typeName,
        (mark = "" ∨ ∃ message?, mark = deprecationMark message? 0) ∧
        text = "\n".intercalate [values, descriptions, typeName] ∧
        Headed values (comment ++ mark) "export const " entry.facts.name " = \x7b\n" ∧
        Headed descriptions comment "export const " (entry.facts.name ++ "Description")
          ": Record<number, string> = \x7b\n" ∧
        Headed typeName comment "export type " entry.facts.name " = ") ∧
    Headed (constantTable catalog.graph documentation (.declared place)) comment "export const "
      entry.facts.name " = \x7b\n" ∧
    (∀ ending ∈ ["", "Description"],
      IsDeclaredName (entry.facts.name ++ ending) ↔ entry.facts.parameters = []) ∧
    ∀ written, IsDeclaredName written → arityMark ∉ written.toList := by
  intro workspace comment
  obtain ⟨declared, hreadFrom⟩ := Catalog.readFrom_of_ofDocument hdocument
  -- The entries of a document are plain, so the tree of the type carries the facts of its entry.
  have hplain := hreadFrom.isPlain entry (List.mem_of_getElem? hentry)
  have htree := TypeGraph.tree_declared hentry hplain
  have hfacts : catalog.graph.facts (.declared place) = entry.facts := by
    rw [TypeGraph.facts, htree, TypeTree.facts]
  refine ⟨?viewModel, ?bag, ?enumeration, ?constants, ?validity, ?arity⟩
  case viewModel =>
    intro strict unit declaration h
    have hheaded := headed_viewModel h
    rw [htree, TypeTree.declaredName_type hnames.name_eq hnames.arityMark_notMem, hfacts]
      at hheaded
    exact ⟨_, hnames.isDeclaredName, rfl, hheaded⟩
  case bag =>
    intro strict summary? declaration h
    have hbag := Except.mapError_eq_ok_iff.mp h
    -- A bag is named after the class without its arity.
    have hname : Name.withoutArity entry.facts.name = name := by
      rw [hnames.name_eq, Catalog.withoutArity_arityName hnames.arityMark_notMem]
    have hheaded := headed_entityBag hbag
    rw [show workspace.graph = catalog.graph from rfl, hfacts, hname] at hheaded
    exact ⟨_, isDeclaredName_of_isIdentifier (hnames.name.append (by decide)), rfl, hheaded⟩
  case enumeration =>
    intro text h
    obtain ⟨metadata, values, descriptions, typeName, -, htext, hvalues, hdescriptions, htype⟩ :=
      headed_enumDeclaration h
    rw [hfacts] at hvalues hdescriptions htype
    refine ⟨_, values, descriptions, typeName, ?_, htext, hvalues, hdescriptions, htype⟩
    -- Only an obsolete enumeration has a mark between its comment and its table.
    split
    · exact .inr ⟨_, rfl⟩
    · exact .inl rfl
  case constants =>
    have hheaded := headed_constantTable catalog.graph documentation (.declared place)
    rw [hfacts] at hheaded
    exact hheaded
  case validity =>
    intro ending hending
    have hletters : ∀ ending ∈ ["", "Description"],
        ending.toList.all isIdentifierChar = true := by decide
    exact hnames.isDeclaredName_append_iff (hletters ending hending)
  case arity => exact fun written h => h.arityMark_notMem

/-- An enumeration with a type parameter. -/
def modeText : String :=
  "types: [\x7bname: Mode, enum: true, type-parameters: [T]\x7d]"

/-- The text that declares an enumeration with a type parameter is read, and all four writers take
its type. -/
theorem exists_read_modeText : ∃ catalog entry,
    Catalog.read {} "mode.yaml" modeText = .ok catalog ∧ catalog.graph.entries = [entry] ∧
      entry.facts.name = "Mode\x601" ∧ entry.facts.space? = none ∧
      entry.facts.parameters = ["T"] ∧ entry.properties.map (·.name) = [] ∧
      (enumDeclaration catalog.graph {} {} (.declared 0)).isOk ∧
      (viewModel catalog.graph {} {} true [] (.declared 0)).outcome.isOk := by
  have hoption : (Catalog.read {} "mode.yaml" modeText).toOption.any (fun catalog =>
      catalog.outline = [("Mode\x601", none, ["T"], [])] ∧
      (enumDeclaration catalog.graph {} {} (.declared 0)).isOk ∧
      (viewModel catalog.graph {} {} true [] (.declared 0)).outcome.isOk) = true := by
    decide +kernel
  obtain ⟨catalog, hcatalog, hmode⟩ := Except.exists_of_any hoption
  obtain ⟨houtline, hdeclared, hviewModel⟩ := of_decide_eq_true (p := _ ∧ _ ∧ _) hmode
  -- The outline has one line, so there is one entry.
  obtain ⟨entry, others, hentries, hentry, hothers⟩ := List.map_eq_cons_iff.mp houtline
  obtain rfl := List.map_eq_nil_iff.mp hothers
  simp only [Prod.mk.injEq] at hentry
  obtain ⟨hname, hspace, hparameters, hproperties⟩ := hentry
  exact ⟨catalog, entry, hcatalog, hentries, hname, hspace, hparameters, hproperties, hdeclared,
    hviewModel⟩

/-- Without the arity mark, the name and the parameter are identifiers. -/
theorem hasIdentifiers_mode {facts : TypeFacts} (hname : facts.name = "Mode\x601")
    (hparameters : facts.parameters = ["T"]) : facts.HasIdentifiers "Mode" where
  name_eq := by
    rw [hname, hparameters]
    decide
  name := by decide
  parameters := by
    rw [hparameters]
    decide

/-- The view model of the mode is declared under an identifier with a type parameter. -/
theorem generated_names_mode : ∃ catalog entry,
    Catalog.read {} "mode.yaml" modeText = .ok catalog ∧
    catalog.graph.entries[0]? = some entry ∧ entry.facts.HasIdentifiers "Mode" ∧
    ∃ declaration,
      (viewModel catalog.graph {} {} true [] (.declared 0)).outcome = .ok declaration ∧
      IsDeclaredName "Mode<T>" ∧
      Headed declaration.text "" "export type " "Mode<T>" " = \x7b\n" := by
  obtain ⟨catalog, entry, hread, hentries, hname, -, hparameters, -, -, hviewModel⟩ :=
    exists_read_modeText
  have hentry : catalog.graph.entries[0]? = some entry := by rw [hentries]; rfl
  have hnames := hasIdentifiers_mode hname hparameters
  obtain ⟨declaration, hdeclaration⟩ := Except.isOk_iff.mp hviewModel
  obtain ⟨document, -, hdocument⟩ := Catalog.exists_ofDocument_of_read hread
  obtain ⟨hviewModels, -⟩ := generated_names hdocument hentry hnames {} {}
  obtain ⟨written, hdeclared, hwritten, hheaded⟩ := hviewModels true [] declaration hdeclaration
  have heq : written = "Mode<T>" := by
    rw [hwritten, hparameters]
    decide
  rw [heq] at hdeclared hheaded
  exact ⟨catalog, entry, hread, hentry, hnames, declaration, hdeclaration, hdeclared, hheaded⟩

/-- The tables of the mode have the number of its type parameters in their names. -/
theorem tables_keep_arity : ∃ catalog,
    Catalog.read {} "mode.yaml" modeText = .ok catalog ∧
    (∀ entry ∈ catalog.graph.entries, (∃ name, entry.facts.HasIdentifiers name) ∧
      ∀ property ∈ entry.properties, IsIdentifier property.name) ∧
    Headed (constantTable catalog.graph {} (.declared 0)) "" "export const " "Mode\x601" " = \x7b\n" ∧
    (∃ values others,
      enumDeclaration catalog.graph {} {} (.declared 0)
        = .ok ("\n".intercalate (values :: others)) ∧
      ∃ mark, Headed values mark "export const " "Mode\x601" " = \x7b\n") ∧
    ¬ IsDeclaredName "Mode\x601" := by
  obtain ⟨catalog, entry, hread, hentries, hname, -, hparameters, hproperties, hdeclared, -⟩ :=
    exists_read_modeText
  have hentry : catalog.graph.entries[0]? = some entry := by rw [hentries]; rfl
  have hfacts : (catalog.graph.facts (.declared 0)).name = "Mode\x601" := by
    obtain ⟨document, -, hdocument⟩ := Catalog.exists_ofDocument_of_read hread
    obtain ⟨declared, hreadFrom⟩ := Catalog.readFrom_of_ofDocument hdocument
    have hplain := hreadFrom.isPlain entry (List.mem_of_getElem? hentry)
    rw [TypeGraph.facts, TypeGraph.tree_declared hentry hplain, TypeTree.facts, hname]
  refine ⟨catalog, hread, ?identifiers, ?constants, ?enumeration, ?invalid⟩
  case identifiers =>
    rw [hentries, List.forall_mem_singleton]
    refine ⟨⟨"Mode", hasIdentifiers_mode hname hparameters⟩, ?_⟩
    rw [List.map_eq_nil_iff.mp hproperties]
    exact List.forall_mem_nil _
  case constants =>
    have hheaded := headed_constantTable catalog.graph {} (.declared 0)
    rw [hfacts] at hheaded
    exact hheaded
  case enumeration =>
    obtain ⟨text, htext⟩ := Except.isOk_iff.mp hdeclared
    obtain ⟨_, values, descriptions, typeName, -, hparts, hvalues, -, -⟩ :=
      headed_enumDeclaration htext
    rw [hfacts] at hvalues
    exact ⟨values, [descriptions, typeName], hparts ▸ htext, _, hvalues⟩
  -- A mark that no declared name has stands in the name of the tables.
  case invalid =>
    intro hdeclared
    exact hdeclared.arityMark_notMem (by decide)

end TypeExport
