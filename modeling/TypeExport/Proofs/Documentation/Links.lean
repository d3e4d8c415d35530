import TypeExport.Proofs.Catalog.Reading
import TypeExport.Proofs.Documentation.Segments
import TypeExport.Proofs.ViewModel.Text

/-!
# Links to generated declarations

A reference to a property in documentation becomes a link to a member of a type.  The member is the
one that the view model has.  The type is written as the last segment of its name, with the number
of its type parameters, so the link leads to the view model only if the type has neither type
parameters nor a dot in its name.

* `IsDottedIdentifier` — identifiers with dots between them.
* `Name.lastSegment_arityName_iff` — when the last segment of a declared name is the given name.
* `toTypeScript_propertyReference` — the link that stands for a reference to a property.
* `link_names_viewModel_iff` — when the link names the view model and its member.
-/

namespace TypeExport

open Name (arityMark lastSegment camelCase)
open TypeScript (IsIdentifier isIdentifierChar)

/-! ### Names with dots -/

/-- Identifiers with dots between them. -/
def IsDottedIdentifier (name : String) : Prop :=
  ∀ segment ∈ name.toList.splitOn '.', IsIdentifier (.ofList segment)

instance (name : String) : Decidable (IsDottedIdentifier name) :=
  inferInstanceAs (Decidable (∀ segment ∈ name.toList.splitOn '.', _))

/-- Every character of a text but the dots stands in a segment. -/
theorem mem_segment_of_mem {c : Char} (hdot : c ≠ '.') {text : List Char} (hc : c ∈ text) :
    ∃ segment ∈ text.splitOn '.', c ∈ segment := by
  induction text using Text.splitOn_induction '.' with
  | single text hnot => exact ⟨text, by simp [List.splitOn_eq_singleton hnot], hc⟩
  | cons first rest hnot ih =>
    rw [List.splitOn_append_cons_self_of_not_mem hnot]
    obtain hfirst | hrest := List.mem_append.mp hc
    · exact ⟨first, List.mem_cons_self, hfirst⟩
    · obtain ⟨segment, hsegment, hin⟩ := ih ((List.mem_cons.mp hrest).resolve_left hdot)
      exact ⟨segment, List.mem_cons_of_mem _ hsegment, hin⟩

/-- A dotted identifier has no characters but those of identifiers and dots. -/
theorem IsDottedIdentifier.notMem {name : String} (h : IsDottedIdentifier name) {c : Char}
    (hdot : c ≠ '.') (hc : isIdentifierChar c = false) : c ∉ name.toList := by
  intro hmem
  obtain ⟨segment, hsegment, hin⟩ := mem_segment_of_mem hdot hmem
  refine (h segment hsegment).notMem hc ?_
  rwa [String.toList_ofList]

namespace Name

/-- The last segment of the name that a catalog gives to a type is the given name exactly if there
is only one segment and no number of type parameters behind it. -/
theorem lastSegment_arityName_iff {name : String} (hmark : arityMark ∉ name.toList)
    (parameters : List String) :
    lastSegment (Catalog.arityName name parameters) = name ↔
      parameters = [] ∧ '.' ∉ name.toList := by
  constructor
  · intro hlast
    -- A last segment has no dot, so the name has none, and then it is its own last segment.
    have hdot : '.' ∉ name.toList := hlast ▸ dot_notMem_lastSegment _
    have hwhole : '.' ∉ (Catalog.arityName name parameters).toList := by
      intro hin
      obtain hname | hsame | hchar := Catalog.mem_arityName hin
      · exact hdot hname
      · exact absurd hsame (by decide)
      · exact absurd hchar (by decide)
    rw [lastSegment_of_notMem hwhole] at hlast
    refine ⟨by_contra fun hparameters => hmark ?_, hdot⟩
    have hshown := (Catalog.arityMark_mem_arityName_iff hmark parameters).mpr hparameters
    rwa [hlast] at hshown
  · rintro ⟨rfl, hdot⟩
    rw [Catalog.arityName_nil, lastSegment_of_notMem hdot]

end Name

/-! ### References to properties -/

namespace Documentation

/-- Behind an owner with any number of segments, its last one and the member stand last. -/
theorem exists_splitOn_member {member : List Char} (hmember : '.' ∉ member) (owner : List Char) :
    ∃ front, (owner ++ '.' :: member).splitOn '.'
      = front ++ [(lastSegment (.ofList owner)).toList, member] := by
  -- The induction is on the dots of the owner; the last segment stays last when one is put in
  -- front.
  induction owner using Text.splitOn_induction '.' with
  | single owner hnot =>
    refine ⟨[], ?_⟩
    rw [List.splitOn_append_cons_self_of_not_mem hnot, List.splitOn_eq_singleton hmember,
      Name.lastSegment_of_notMem (by rwa [String.toList_ofList]), String.toList_ofList]
    rfl
  | cons first rest hnot ih =>
    obtain ⟨front, hfront⟩ := ih
    refine ⟨first :: front, ?_⟩
    have howner : String.ofList (first ++ '.' :: rest) = .ofList first ++ "." ++ .ofList rest := by
      apply String.toList_injective
      simp
    rw [List.append_assoc, List.cons_append, List.splitOn_append_cons_self_of_not_mem hnot, hfront,
      howner, Name.lastSegment_append]
    rfl

/-- A reference to an element without a label. -/
def referenceText (id : String) : String :=
  "<see cref=\"" ++ id ++ "\"/>"

/-- A link to a member of a type, as it stands in a comment. -/
def linkText (typeName memberName : String) : String :=
  "\x7b@link " ++ typeName ++ "." ++ memberName ++ "\x7d"

/-- Links to members of one name are the same exactly if the types have one name. -/
theorem linkText_inj {typeName other memberName : String} :
    linkText typeName memberName = linkText other memberName ↔ typeName = other := by
  simp [linkText, String.append_assoc, String.append_right_inj, String.append_left_inj]

variable {ownerName memberName : String}

/-- The id of a property is linked by the last segment of its owner and the name in camel case. -/
theorem linkTo_propertyId (hmember : '.' ∉ memberName.toList) :
    linkTo (propertyId ownerName memberName).toList
      = (linkText (lastSegment ownerName) (camelCase memberName)).toList := by
  obtain ⟨front, hfront⟩ := exists_splitOn_member hmember ownerName.toList
  have hid : (propertyId ownerName memberName).toList
      = 'P' :: ':' :: (ownerName.toList ++ '.' :: memberName.toList) := by
    simp [propertyId]
  rw [String.ofList_toList] at hfront
  rw [hid, linkTo_of_splitOn hfront]
  simp only [linkText, camelCase, String.toList_append, String.toList_ofList]
  rfl

/-- **Links.**  A reference to a property is written as a link to the last segment of its owner's
name. -/
theorem toTypeScript_propertyReference (hmember : '.' ∉ memberName.toList)
    (hquote : '"' ∉ (propertyId ownerName memberName).toList)
    (hbracket : '<' ∉ (propertyId ownerName memberName).toList) :
    toTypeScript (referenceText (propertyId ownerName memberName))
      = linkText (lastSegment ownerName) (camelCase memberName) := by
  have hne : (propertyId ownerName memberName).toList ≠ [] := by simp [propertyId]
  -- The text is a single segment, so its rewriting is the link that stands for the reference.
  have hwrite := toTypeScript_write
    [.inline (.reference (simpleReference _ hne hquote hbracket))]
  have hsource : referenceText (propertyId ownerName memberName) = .ofList
      ([Segment.inline (.reference (simpleReference _ hne hquote hbracket))].flatMap
        (·.write .source)) := by
    apply String.toList_injective
    simp [referenceText, Segment.write, Inline.write, Marks.source, Reference.head, simpleReference]
  have hlink : [Segment.inline (.reference (simpleReference _ hne hquote hbracket))].flatMap
      (·.write .typeScript) = linkTo (propertyId ownerName memberName).toList := by
    simp [Segment.write, Inline.write, Marks.typeScript, simpleReference]
  rw [hsource, hwrite, hlink, linkTo_propertyId hmember, String.ofList_toList]

end Documentation

/-! ### Links and view models -/

open Documentation (propertyId referenceText linkText toTypeScript)

/-- The full name of a declared type consists of identifiers, dots, a mark and digits. -/
theorem notMem_propertyId {facts : TypeFacts} {name memberName : String}
    (hfacts : facts.name = Catalog.arityName name facts.parameters)
    (hname : IsDottedIdentifier name) (hspace : ∀ space ∈ facts.space?, IsDottedIdentifier space)
    (hmember : IsIdentifier memberName) {c : Char} (hc : isIdentifierChar c = false)
    (hid : c ∉ ['P', ':', '.', arityMark]) :
    c ∉ (propertyId facts.fullName memberName).toList := by
  simp only [List.mem_cons, List.not_mem_nil, or_false, not_or] at hid
  obtain ⟨hkind, hcolon, hdot, hmark⟩ := hid
  have hsimple : c ∉ facts.name.toList := by
    intro hin
    rw [hfacts] at hin
    obtain hin | hsame | hchar := Catalog.mem_arityName hin
    · exact hname.notMem hdot hc hin
    · exact hmark hsame
    · exact absurd hchar (by simp [hc])
  have hfull : c ∉ facts.fullName.toList := by
    unfold TypeFacts.fullName qualified
    -- An empty namespace is left out of the full name, as a missing one is.
    split
    · exact hsimple
    · next space heq =>
      split
      · exact hsimple
      · simp [hdot, hsimple, (hspace space heq).notMem hdot hc]
  simp [propertyId, hkind, hcolon, hdot, hfull, hmember.notMem hc]

/-- **Links and view models.**  A reference to a property of a declared type becomes a link to the
member that the view model has for the property.  The link names the type as the view model does
exactly if the type has no type parameters and no dot in its name. -/
theorem link_names_viewModel_iff {readSettings : Settings} {document : Yaml.Document}
    {catalog : Catalog} (hdocument : Catalog.ofDocument readSettings document = .ok catalog)
    {place : Nat} {entry : TypeEntry} (hentry : catalog.graph.entries[place]? = some entry)
    {name : String} (hfacts : entry.facts.name = Catalog.arityName name entry.facts.parameters)
    (hname : IsDottedIdentifier name)
    (hspace : ∀ space ∈ entry.facts.space?, IsDottedIdentifier space)
    {property : Property} (hproperty : property ∈ entry.properties)
    (hmember : IsIdentifier property.name) :
    let link := toTypeScript (referenceText (propertyId entry.facts.fullName property.name))
    link = linkText (lastSegment entry.facts.name) (camelCase property.name) ∧
    (link = linkText name (camelCase property.name) ↔
      entry.facts.parameters = [] ∧ '.' ∉ name.toList) ∧
    ∀ settings documentation strict unit declaration,
      (viewModel catalog.graph settings documentation strict unit (.declared place)).outcome
        = .ok declaration →
      ∃ lines type,
        declaration.text
          = viewModelText (typeScriptComment (documentation.typeSummary? entry.facts.fullName))
            (name ++ parameterList entry.facts.parameters) lines ∧
        memberLine
          (typeScriptComment
            (documentation.memberSummary? entry.facts.fullName property.name) 4)
          (camelCase property.name) (property.isRequired catalog.graph) type ∈ lines := by
  intro link
  have hmark : arityMark ∉ name.toList := hname.notMem (by decide) (by decide)
  have hlink : link = linkText (lastSegment entry.facts.name) (camelCase property.name) := by
    have hdot : '.' ∉ property.name.toList := hmember.notMem (by decide)
    -- Neither quote nor bracket stands in the id, so the reference is taken as one.
    have hnot {c : Char} := notMem_propertyId hfacts hname hspace hmember (c := c)
    rw [← Name.lastSegment_qualified entry.facts.space?]
    exact Documentation.toTypeScript_propertyReference hdot (hnot (by decide) (by decide))
      (hnot (by decide) (by decide))
  refine ⟨hlink, ?_, fun settings documentation strict unit declaration h => ?_⟩
  · rw [hlink, Documentation.linkText_inj, hfacts, Name.lastSegment_arityName_iff hmark]
  -- A declared type is named from its own place, where a catalog that was read has no arguments.
  · obtain ⟨declared, hreadFrom⟩ := Catalog.readFrom_of_ofDocument hdocument
    have hplain := hreadFrom.isPlain entry (List.mem_of_getElem? hentry)
    have htree := TypeGraph.tree_declared hentry hplain
    obtain ⟨lines, htext, hlines⟩ := of_viewModel_eq_ok h
    have hfullName : (catalog.graph.facts (.declared place)).fullName = entry.facts.fullName := by
      rw [TypeGraph.facts, htree, TypeTree.facts]
    rw [htree, TypeTree.declaredName_type hfacts hmark, hfullName] at htext
    rw [hfullName] at hlines
    have howned : property ∈ catalog.graph.properties (.declared place) := by
      simpa [TypeGraph.properties, TypeGraph.entry?, hentry] using hproperty
    obtain ⟨type, -, hline⟩ := hlines property howned
    exact ⟨lines, type.text, htext, hline⟩

/-- The names in a catalog: of each type its name, its namespace, its type parameters and its
properties. -/
def Catalog.outline (catalog : Catalog) :
    List (String × Option String × List String × List String) :=
  catalog.graph.entries.map fun entry =>
    (entry.facts.name, entry.facts.space?, entry.facts.parameters, entry.properties.map (·.name))

/-- A class. -/
def siteText : String :=
  "types: [\x7bname: Site, properties: [\x7bname: Url, type: int\x7d]\x7d]"

/-- The link to a property of the site names its view model. -/
theorem link_names_viewModel_site : ∃ catalog entry property,
    Catalog.read {} "site.yaml" siteText = .ok catalog ∧
    catalog.graph.entries[0]? = some entry ∧
    entry.facts.name = Catalog.arityName "Site" entry.facts.parameters ∧
    IsDottedIdentifier "Site" ∧ (∀ space ∈ entry.facts.space?, IsDottedIdentifier space) ∧
    property ∈ entry.properties ∧ IsIdentifier property.name ∧
    toTypeScript (referenceText (propertyId entry.facts.fullName property.name))
      = linkText "Site" (camelCase property.name) := by
  have hoption : (Catalog.read {} "site.yaml" siteText).toOption.any (fun catalog =>
      catalog.outline = [("Site", none, [], ["Url"])]) = true := by
    decide +kernel
  obtain ⟨catalog, hread, houtline⟩ := Except.exists_of_any hoption
  -- The outline gives the entry and its property back as they were read.
  obtain ⟨entry, others, hentries, hsite, -⟩ :=
    List.map_eq_cons_iff.mp (of_decide_eq_true houtline)
  simp only [Prod.mk.injEq] at hsite
  obtain ⟨hsimple, hspace, hparameters, hproperties⟩ := hsite
  obtain ⟨property, rest, hproperties, hproperty, -⟩ := List.map_eq_cons_iff.mp hproperties
  have hentry : catalog.graph.entries[0]? = some entry := by rw [hentries]; rfl
  have hfacts : entry.facts.name = Catalog.arityName "Site" entry.facts.parameters := by
    rw [hsimple, hparameters, Catalog.arityName_nil]
  have hname : IsDottedIdentifier "Site" := by decide
  have hspaces : ∀ space ∈ entry.facts.space?, IsDottedIdentifier space := by
    rw [hspace]
    nofun
  have hmem : property ∈ entry.properties := by rw [hproperties]; exact List.mem_cons_self
  have hmember : IsIdentifier property.name := by rw [hproperty]; decide
  obtain ⟨document, -, hdocument⟩ := Catalog.exists_ofDocument_of_read hread
  obtain ⟨-, hlink, -⟩ :=
    link_names_viewModel_iff hdocument hentry hfacts hname hspaces hmem hmember
  exact ⟨catalog, entry, property, hread, hentry, hfacts, hname, hspaces, hmem, hmember,
    hlink.mpr ⟨hparameters, by decide⟩⟩

/-- A class with a type parameter. -/
def pageText : String :=
  "types: [\x7bname: Page, namespace: Rock.Model, type-parameters: [T], "
    ++ "properties: [\x7bname: Items, type: T\x7d]\x7d]"

/-- The catalog with the generic page is read, and its view model is written. -/
theorem exists_read_pageText : ∃ catalog, Catalog.read {} "page.yaml" pageText = .ok catalog ∧
    catalog.outline = [("Page\x601", some "Rock.Model", ["T"], ["Items"])] ∧
    (catalog.graph.facts (.declared 0)).fullName = "Rock.Model.Page\x601" ∧
    (viewModel catalog.graph {} {} true [] (.declared 0)).outcome.toOption.map (·.text)
      = some "export type Page<T> = \x7b\n    items?: T;\n\x7d;\n" := by
  have hoption : (Catalog.read {} "page.yaml" pageText).toOption.any (fun catalog =>
      catalog.outline = [("Page\x601", some "Rock.Model", ["T"], ["Items"])] ∧
      (catalog.graph.facts (.declared 0)).fullName = "Rock.Model.Page\x601" ∧
      (viewModel catalog.graph {} {} true [] (.declared 0)).outcome.toOption.map (·.text)
        = some "export type Page<T> = \x7b\n    items?: T;\n\x7d;\n") = true := by
    decide +kernel
  obtain ⟨catalog, hcatalog, hpage⟩ := Except.exists_of_any hoption
  exact ⟨catalog, hcatalog, of_decide_eq_true (p := _ ∧ _ ∧ _) hpage⟩

/-- The link to a property of the page leads nowhere: the page is declared without the number of its
type parameters. -/
theorem link_keeps_arity : ∃ catalog, Catalog.read {} "page.yaml" pageText = .ok catalog ∧
    catalog.outline = [("Page\x601", some "Rock.Model", ["T"], ["Items"])] ∧
    (viewModel catalog.graph {} {} true [] (.declared 0)).outcome.toOption.map (·.text)
      = some "export type Page<T> = \x7b\n    items?: T;\n\x7d;\n" ∧
    toTypeScript (referenceText (propertyId (catalog.graph.facts (.declared 0)).fullName "Items"))
      = linkText "Page\x601" "items" ∧
    linkText "Page\x601" "items" ≠ linkText "Page" "items" := by
  obtain ⟨catalog, hread, houtline, hfullName, htext⟩ := exists_read_pageText
  refine ⟨catalog, hread, houtline, htext, ?link, ?differs⟩
  case link =>
    rw [hfullName, Documentation.toTypeScript_propertyReference (by decide) (by decide) (by decide)]
    have hsegment : lastSegment "Rock.Model.Page\x601" = "Page\x601" := by decide
    rw [hsegment]
    rfl
  case differs =>
    rw [Ne, Documentation.linkText_inj]
    decide

end TypeExport
