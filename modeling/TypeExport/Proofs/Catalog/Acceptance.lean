import TypeExport.Proofs.Catalog.EntryOrder
import TypeExport.Proofs.Catalog.Schema

/-!
# Which documents are accepted

A document is read as a catalog exactly if it has the form of one.  Where the types of all its
properties denote types, its form is all that can be wrong with it.

* `exists_readProperty_iff`, `exists_readField_iff`, `exists_readConstant_iff`,
  `exists_declare_iff`, `exists_fillMembers_iff`, `exists_documentEntries_iff` — a part is read
  exactly if it has its form.
* `TypesResolve` — the types of all properties denote types.
* `exists_ofDocument_iff`, `failsOnly_ofDocument` — when a document is accepted, and why else not.
* `accepted_iff_isCatalog` — the schema, with what stands for an empty list.
-/

namespace TypeExport.Catalog

open Yaml (Document Value Fields)

variable {document : Document} {fields : Fields} {place : Place} {settings : Settings}

/-! ### Parts of a catalog -/

/-- A property is read exactly from what has its form, if its type resolves. -/
theorem exists_readProperty_iff {scope : Expression.Scope} {typeName : String}
    (hresolves : ∀ expression ∈ (Value.find? fields "type").bind (·.nonEmptyText?),
      (scope.parse expression).isOk = true) :
    (∃ property, readProperty document scope typeName fields = .ok property) ↔
      IsProperty document document.isVoid fields := by
  simp only [readProperty, Except.bind_eq_ok_iff, plain_eq_ok_iff, Except.mapError_eq_ok_iff]
  constructor
  · rintro ⟨property, _, hkeys, name, hname, expression, hexpression, isRequired?, hrequired, -, -,
      markers, hmarkers, -⟩
    exact {
      keys := exists_checkKeys_iff.mp ⟨_, hkeys⟩
      name := exists_requiredText_iff.mp ⟨name, hname⟩
      type := exists_requiredText_iff.mp ⟨expression, hexpression⟩
      isRequired := exists_readIsRequired_iff.mp ⟨isRequired?, hrequired⟩
      markers := exists_readMarkers_iff.mp ⟨markers, hmarkers⟩ }
  · intro h
    obtain ⟨_, hkeys⟩ := exists_checkKeys_iff.mpr h.keys
    obtain ⟨name, hname⟩ := exists_requiredText_iff.mpr h.name
    obtain ⟨expression, hexpression⟩ := exists_requiredText_iff.mpr h.type
    obtain ⟨isRequired?, hrequired⟩ := exists_readIsRequired_iff.mpr h.isRequired
    obtain ⟨markers, hmarkers⟩ := exists_readMarkers_iff.mpr h.markers
    -- That the expression denotes a type is no matter of its form.
    obtain ⟨type, htype⟩ := Except.isOk_iff.mp
      (hresolves expression (orWrong_eq_ok_iff.mp hexpression))
    exact ⟨_, _, hkeys, name, hname, expression, hexpression, isRequired?, hrequired, type, htype,
      markers, hmarkers, rfl⟩

/-- A member with a value is read exactly if the value has the form. -/
theorem exists_valued_iff {α β : Type} {read : Value → Option α} {form : Value → Prop}
    {keysPlace : Place} {expected : Yaml.Expected} {make : String → α → List Marker → β}
    (h : Reads read form) :
    (∃ result, (do
        checkKeys keysPlace valueKeys fields
        let name ← requiredText place fields "name"
        let value ← orWrong place "value" expected ((Value.find? fields "value").bind read)
        let markers ← readMarkers document place fields
        return make name value markers) = .ok result) ↔
      IsValued document document.isVoid form fields := by
  simp only [Except.bind_eq_ok_iff]
  -- Each step of the reader asks for one field of the form, in both directions.
  constructor
  · rintro ⟨result, _, hkeys, name, hname, value, hvalue, markers, hmarkers, -⟩
    exact {
      keys := exists_checkKeys_iff.mp ⟨_, hkeys⟩
      name := exists_requiredText_iff.mp ⟨name, hname⟩
      value := (exists_orWrong_iff h).mp ⟨value, hvalue⟩
      markers := exists_readMarkers_iff.mp ⟨markers, hmarkers⟩ }
  · intro hvalued
    obtain ⟨_, hkeys⟩ := exists_checkKeys_iff.mpr hvalued.keys
    obtain ⟨name, hname⟩ := exists_requiredText_iff.mpr hvalued.name
    obtain ⟨value, hvalue⟩ := (exists_orWrong_iff h).mpr hvalued.value
    obtain ⟨markers, hmarkers⟩ := exists_readMarkers_iff.mpr hvalued.markers
    exact ⟨_, _, hkeys, name, hname, value, hvalue, markers, hmarkers, rfl⟩

/-- A field is read exactly from a name with an integer as its value. -/
theorem exists_readField_iff {typeName : String} :
    (∃ field, readField document typeName fields = .ok field) ↔
      IsValued document document.isVoid IsInteger fields :=
  exists_valued_iff reads_integer

/-- A constant is read exactly from a name with a text as its value. -/
theorem exists_readConstant_iff {typeName : String} :
    (∃ constant, readConstant document typeName fields = .ok constant) ↔
      IsValued document document.isVoid IsText fields :=
  exists_valued_iff reads_text

/-- An entry declares a type exactly if what it says about the type itself has the forms. -/
theorem exists_declare_iff {name : String} :
    (∃ entry, declare document name fields = .ok entry) ↔
      DeclaresType document document.isVoid fields := by
  simp only [declare, Except.bind_eq_ok_iff]
  constructor
  · rintro ⟨entry, parameters, hparameters, space?, hspace, isEnum, hisEnum, interfaces,
      hinterfaces, markers, hmarkers, -⟩
    exact {
      parameters := exists_textList_iff.mp ⟨parameters, hparameters⟩
      space := exists_readSpace_iff.mp ⟨space?, hspace⟩
      isEnum := exists_readIsEnum_iff.mp ⟨isEnum, hisEnum⟩
      interfaces := exists_textList_iff.mp ⟨interfaces, hinterfaces⟩
      markers := exists_readMarkers_iff.mp ⟨markers, hmarkers⟩ }
  · intro h
    obtain ⟨parameters, hparameters⟩ := exists_textList_iff.mpr h.parameters
    obtain ⟨space?, hspace⟩ := exists_readSpace_iff.mpr h.space
    obtain ⟨isEnum, hisEnum⟩ := exists_readIsEnum_iff.mpr h.isEnum
    obtain ⟨interfaces, hinterfaces⟩ := exists_textList_iff.mpr h.interfaces
    obtain ⟨markers, hmarkers⟩ := exists_readMarkers_iff.mpr h.markers
    exact ⟨_, parameters, hparameters, space?, hspace, isEnum, hisEnum, interfaces, hinterfaces,
      markers, hmarkers, rfl⟩

/-- What the types of the properties of a declared type may refer to. -/
def propertyScope (settings : Settings) (declared : Catalog) (entry : TypeEntry) :
    Expression.Scope where
  catalog := declared
  parameters := entry.facts.parameters
  settings := settings

/-- The names that a list of properties gives for their types denote types. -/
def PropertiesResolve (document : Document) (scope : Expression.Scope) (fields : Fields) : Prop :=
  ∀ mappings ∈ document.mappingList? (Value.find? fields "properties"), ∀ mapping ∈ mappings,
    ∀ expression ∈ (Value.find? mapping "type").bind (·.nonEmptyText?),
      (scope.parse expression).isOk = true

instance (document : Document) (scope : Expression.Scope) (fields : Fields) :
    Decidable (PropertiesResolve document scope fields) :=
  inferInstanceAs (Decidable (∀ mappings ∈ document.mappingList? (Value.find? fields "properties"),
    ∀ mapping ∈ mappings, ∀ expression ∈ (Value.find? mapping "type").bind (·.nonEmptyText?),
      (scope.parse expression).isOk = true))

/-- The members of a type are read exactly if they have the forms. -/
theorem exists_fillMembers_iff {declared : Catalog} {settings : Settings} {entry : TypeEntry}
    {name : String}
    (hresolves : PropertiesResolve document (propertyScope settings declared entry) fields) :
    (∃ filled, fillMembers document declared settings entry name fields = .ok filled) ↔
      HasMembers document document.isVoid fields := by
  -- A list is read exactly if each of its mappings is.
  have hallProperties : (∃ mappings, mappingList document (.type name) fields "properties"
        = .ok mappings ∧ ∃ results, mappings.mapM
          (readProperty document (propertyScope settings declared entry) name) = .ok results) ↔ _ :=
    exists_readMappings_iff fun mappings hmappings mapping hmapping => exists_readProperty_iff
      (hresolves mappings (orWrong_eq_ok_iff.mp hmappings) mapping hmapping)
  have hallFields : (∃ mappings, mappingList document (.type name) fields "fields" = .ok mappings ∧
      ∃ results, mappings.mapM (readField document name) = .ok results) ↔ _ :=
    exists_readMappings_iff fun _ _ _ _ => exists_readField_iff
  have hallConstants : (∃ mappings, mappingList document (.type name) fields "constants"
        = .ok mappings ∧ ∃ results, mappings.mapM (readConstant document name) = .ok results) ↔ _ :=
    exists_readMappings_iff fun _ _ _ _ => exists_readConstant_iff
  simp only [fillMembers, Except.bind_eq_ok_iff, plain_eq_ok_iff]
  constructor
  -- Fields and constants are read in a step of their own, which can only fail by their forms.
  · rintro ⟨filled, rawProperties, hrawProperties, properties, hproperties, members,
      ⟨rawFields, hrawFields, enumFields, henumFields, rawConstants, hrawConstants, constants,
        hconstants, -⟩, -⟩
    exact {
      properties := hallProperties.mp ⟨rawProperties, hrawProperties, properties, hproperties⟩
      enumFields := hallFields.mp ⟨rawFields, hrawFields, enumFields, henumFields⟩
      constants := hallConstants.mp ⟨rawConstants, hrawConstants, constants, hconstants⟩ }
  · intro h
    obtain ⟨rawProperties, hrawProperties, properties, hproperties⟩ :=
      hallProperties.mpr h.properties
    obtain ⟨rawFields, hrawFields, enumFields, henumFields⟩ := hallFields.mpr h.enumFields
    obtain ⟨rawConstants, hrawConstants, constants, hconstants⟩ := hallConstants.mpr h.constants
    exact ⟨_, rawProperties, hrawProperties, properties, hproperties, (enumFields, constants),
      ⟨rawFields, hrawFields, enumFields, henumFields, rawConstants, hrawConstants, constants,
        hconstants, rfl⟩, rfl⟩

/-! ### Documents -/

/-- An entry is a mapping with allowed keys and a name. -/
theorem exists_readEntry_iff {value : Value} :
    (∃ name, readEntry document value = .ok (name, fields)) ↔
      document.fields? value = some fields ∧ OnlyKeys entryKeys fields ∧
        Requires fields "name" IsName := by
  have hname : (∃ name, requiredText .entry fields "name" = .ok name) ↔
      Requires fields "name" IsName := exists_requiredText_iff
  simp only [readEntry_eq_ok_iff, exists_and_left, unknownKey?_eq_none_iff, ← hname, requiredText,
    orWrong_eq_ok_iff]

/-- A list of entries is read exactly if each is a mapping with a name and no foreign keys. -/
theorem exists_readEntries_iff {part : Fields → Prop} {items : List Value} :
    (∃ raw, items.mapM (readEntry document) = .ok raw ∧ ∀ entry ∈ raw, part entry.2) ↔
      ∀ item ∈ items, IsMapping document (fun fields =>
        OnlyKeys entryKeys fields ∧ Requires fields "name" IsName ∧ part fields) item := by
  constructor
  · rintro ⟨raw, hraw, hparts⟩ item hitem
    obtain ⟨⟨name, fields⟩, hentry⟩ := Except.exists_mapM_eq_ok_iff.mp ⟨raw, hraw⟩ item hitem
    have hmem := (Except.mem_of_mapM_eq_ok hraw _).mpr ⟨item, hitem, hentry⟩
    obtain ⟨hfields, hkeys, hname⟩ := exists_readEntry_iff.mp ⟨name, hentry⟩
    exact ⟨fields, hfields, hkeys, hname, hparts _ hmem⟩
  · intro hitems
    obtain ⟨raw, hraw⟩ := Except.exists_mapM_eq_ok_iff.mpr fun item hitem => by
      obtain ⟨fields, hfields, hkeys, hname, -⟩ := hitems item hitem
      obtain ⟨name, hentry⟩ := exists_readEntry_iff.mpr ⟨hfields, hkeys, hname⟩
      exact ⟨_, hentry⟩
    -- What was read of an item are its fields, so the part that holds of them holds here.
    refine ⟨raw, hraw, fun ⟨name, fields⟩ hentry => ?_⟩
    obtain ⟨item, hitem, hread⟩ := (Except.mem_of_mapM_eq_ok hraw _).mp hentry
    obtain ⟨hfields, -⟩ := exists_readEntry_iff.mp ⟨name, hread⟩
    obtain ⟨others, hothers, -, -, hpart⟩ := hitems item hitem
    obtain rfl : fields = others := Option.some.inj (hfields.symm.trans hothers)
    exact hpart

/-- A document has entries exactly if it is a mapping with a list of them. -/
theorem exists_documentEntries_iff (part : Fields → Prop) :
    (∃ raw, documentEntries document = .ok raw ∧ ∀ entry ∈ raw, part entry.2) ↔
      IsMapping document (fun fields => OnlyKeys ["types"] fields ∧
        AllowsMappings document document.isVoid fields "types" fun fields =>
          OnlyKeys entryKeys fields ∧ Requires fields "name" IsName ∧ part fields)
        document.root := by
  have hkeys (fields : Fields) : (fields.all fun field => Yaml.isAllowed ["types"] field.1) = true ↔
      OnlyKeys ["types"] fields := by
    simp only [List.all_eq_true, isAllowed_iff, OnlyKeys]
  -- The list under the only key may be missing, so it is compared as a whole.
  simp only [documentEntries_eq_ok_iff, IsMapping, AllowsMappings, Allows, ← exists_itemList_iff,
    hkeys]
  constructor
  · rintro ⟨raw, ⟨fields, hfields, hkeys, items, hitems, hraw⟩, hparts⟩
    exact ⟨fields, hfields, hkeys, items, hitems, exists_readEntries_iff.mp ⟨raw, hraw, hparts⟩⟩
  · rintro ⟨fields, hfields, hkeys, items, hitems, hentries⟩
    obtain ⟨raw, hraw, hparts⟩ := exists_readEntries_iff.mpr hentries
    exact ⟨raw, ⟨fields, hfields, hkeys, items, hitems, hraw⟩, hparts⟩

/-- The types of all properties denote types over what the entries declare. -/
def EntriesResolve (settings : Settings) (document : Document) (raw : List (String × Fields)) :
    Prop :=
  ∀ pairs ∈ (raw.mapM (declareWith document)).toOption, ∀ pair ∈ pairs,
    PropertiesResolve document (propertyScope settings ⟨⟨pairs.map (·.1)⟩⟩ pair.1) pair.2.2

instance (settings : Settings) (document : Document) (raw : List (String × Fields)) :
    Decidable (EntriesResolve settings document raw) :=
  inferInstanceAs (Decidable (∀ pairs ∈ (raw.mapM (declareWith document)).toOption,
    ∀ pair ∈ pairs,
      PropertiesResolve document (propertyScope settings ⟨⟨pairs.map (·.1)⟩⟩ pair.1) pair.2.2))

/-- Entries are read exactly if what they say has the forms. -/
theorem exists_fillDeclared_iff {raw : List (String × Fields)}
    (hresolves : EntriesResolve settings document raw) :
    (∃ pairs, raw.mapM (declareWith document) = .ok pairs ∧
        ∃ filled, pairs.mapM (fillDeclared document ⟨⟨pairs.map (·.1)⟩⟩ settings) = .ok filled) ↔
      ∀ entry ∈ raw, DeclaresType document document.isVoid entry.2 ∧
        HasMembers document document.isVoid entry.2 := by
  have hdeclare (entry : String × Fields) :
      (∃ pair, declareWith document entry = .ok pair) ↔
        DeclaresType document document.isVoid entry.2 := by
    constructor
    · rintro ⟨pair, hpair⟩
      exact exists_declare_iff.mp ⟨pair.1, (declareWith_eq_ok_iff.mp hpair).1⟩
    · intro h
      obtain ⟨type, htype⟩ : ∃ type, declare document entry.1 entry.2 = .ok type :=
        exists_declare_iff.mpr h
      exact ⟨(type, entry), declareWith_eq_ok_iff.mpr ⟨htype, rfl⟩⟩
  have hfill (pairs) (hpairs : raw.mapM (declareWith document) = .ok pairs) (pair)
      (hpair : pair ∈ pairs) :
      (∃ filled, fillDeclared document ⟨⟨pairs.map (·.1)⟩⟩ settings pair = .ok filled) ↔
        HasMembers document document.isVoid pair.2.2 :=
    exists_fillMembers_iff (hresolves pairs (Except.mem_toOption_iff.mpr hpairs) pair hpair)
  simp only [Except.exists_mapM_eq_ok_iff]
  constructor
  · -- Each entry has its declared type among the pairs, and its members were filled in there.
    rintro ⟨pairs, hpairs, hfilled⟩ entry hentry
    obtain ⟨pair, hpair⟩ := Except.exists_mapM_eq_ok_iff.mp ⟨pairs, hpairs⟩ entry hentry
    have hmem := (Except.mem_of_mapM_eq_ok hpairs pair).mpr ⟨entry, hentry, hpair⟩
    obtain ⟨-, rfl⟩ := declareWith_eq_ok_iff.mp hpair
    exact ⟨(hdeclare _).mp ⟨pair, hpair⟩, (hfill pairs hpairs pair hmem).mp (hfilled pair hmem)⟩
  · -- All types are declared first, so that their members can be read over all of them.
    intro hentries
    obtain ⟨pairs, hpairs⟩ := Except.exists_mapM_eq_ok_iff.mpr fun entry hentry =>
      (hdeclare entry).mpr (hentries entry hentry).1
    refine ⟨pairs, hpairs, fun pair hmem => (hfill pairs hpairs pair hmem).mpr ?_⟩
    obtain ⟨entry, hentry, hpair⟩ := (Except.mem_of_mapM_eq_ok hpairs pair).mp hmem
    obtain ⟨-, rfl⟩ := declareWith_eq_ok_iff.mp hpair
    exact (hentries _ hentry).2

/-! ### Acceptance -/

/-- The types of all properties of a document denote types over the declared types.  Nothing is
asked of a document whose types cannot be declared. -/
def TypesResolve (settings : Settings) (document : Document) : Prop :=
  ∀ raw ∈ (documentEntries document).toOption, EntriesResolve settings document raw

instance (settings : Settings) (document : Document) :
    Decidable (TypesResolve settings document) :=
  inferInstanceAs (Decidable (∀ raw ∈ (documentEntries document).toOption,
    EntriesResolve settings document raw))

/-- A document with a root other than null is a catalog exactly if it has entries whose forms are
right. -/
theorem isCatalog_iff (hroot : document.root.isNull = false) :
    IsCatalog document document.isVoid ↔
      ∃ raw, documentEntries document = .ok raw ∧ ∀ entry ∈ raw,
        DeclaresType document document.isVoid entry.2 ∧
          HasMembers document document.isVoid entry.2 := by
  have hnull : document.root ≠ .null := by
    rw [Ne, ← isNull_iff, hroot]
    exact Bool.false_ne_true
  rw [IsCatalog, OrNull, or_iff_right hnull, exists_documentEntries_iff fun fields =>
    DeclaresType document document.isVoid fields ∧ HasMembers document document.isVoid fields]
  -- An entry is checked in two rounds, its keys and its name before all the rest.
  have hentry (fields : Fields) : IsEntry document document.isVoid fields ↔
      OnlyKeys entryKeys fields ∧ Requires fields "name" IsName ∧
        DeclaresType document document.isVoid fields ∧ HasMembers document document.isVoid fields :=
    ⟨fun ⟨htype, hmembers, hkeys, hname⟩ => ⟨hkeys, hname, htype, hmembers⟩,
      fun ⟨hkeys, hname, htype, hmembers⟩ => ⟨htype, hmembers, hkeys, hname⟩⟩
  simp only [← hentry]
  exact ⟨.imp fun _ _ ⟨hkeys, htypes⟩ => ⟨hkeys, htypes⟩,
    .imp fun _ _ ⟨hkeys, htypes⟩ => ⟨hkeys, htypes⟩⟩

/-- Where the types of the properties resolve, a catalog is read exactly from what has its form. -/
theorem exists_ofDocument_iff (hresolves : TypesResolve settings document) :
    (∃ catalog, ofDocument settings document = .ok catalog) ↔
      IsCatalog document document.isVoid := by
  cases hroot : document.root.isNull with
  -- An empty document is an empty catalog.
  | true =>
    rw [ofDocument, if_pos hroot]
    exact iff_of_true ⟨_, rfl⟩ (.inl (isNull_iff.mp hroot))
  | false =>
    rw [isCatalog_iff hroot]
    simp only [ofDocument_eq_ok_iff hroot]
    constructor
    · rintro ⟨catalog, raw, pairs, filled, hraw, hpairs, hfilled, -⟩
      have hentries := hresolves raw (Except.mem_toOption_iff.mpr hraw)
      exact ⟨raw, hraw, (exists_fillDeclared_iff hentries).mp ⟨pairs, hpairs, filled, hfilled⟩⟩
    · rintro ⟨raw, hraw, hforms⟩
      have hentries := hresolves raw (Except.mem_toOption_iff.mpr hraw)
      obtain ⟨pairs, hpairs, filled, hfilled⟩ := (exists_fillDeclared_iff hentries).mpr hforms
      exact ⟨_, raw, pairs, filled, hraw, hpairs, hfilled, rfl⟩

/-! ### Errors -/

/-- A read of a part fails only as a violation of the schema. -/
theorem failsOnly_plain {α : Type} (read : SchemaRead α) :
    (plain read).FailsOnly (·.isLeft = true) :=
  Except.FailsOnly.mapError fun _ _ => rfl

/-- Only the type of a property fails in another way than by its form. -/
theorem failsOnly_readProperty {scope : Expression.Scope} {typeName : String}
    (hresolves : ∀ expression ∈ (Value.find? fields "type").bind (·.nonEmptyText?),
      (scope.parse expression).isOk = true) :
    (readProperty document scope typeName fields).FailsOnly (·.isLeft = true) := by
  refine (failsOnly_plain _).bind fun _ => ?_
  refine (failsOnly_plain _).bind fun name => ?_
  refine (failsOnly_plain _).bind_of_eq_ok fun expression hexpression => ?_
  refine (failsOnly_plain _).bind fun isRequired? => ?_
  refine Except.FailsOnly.bind ?_ fun type => ?_
  · obtain ⟨type, htype⟩ := Except.isOk_iff.mp
      (hresolves expression (orWrong_eq_ok_iff.mp (plain_eq_ok_iff.mp hexpression)))
    rw [htype]
    exact Except.failsOnly_ok type
  · exact (failsOnly_plain _).bind fun markers => Except.failsOnly_ok _

/-- Where the types of its properties resolve, an entry fails to be filled only as a violation of
the schema. -/
theorem failsOnly_fillMembers {declared : Catalog} {entry : TypeEntry} {name : String}
    (hresolves : PropertiesResolve document (propertyScope settings declared entry) fields) :
    (fillMembers document declared settings entry name fields).FailsOnly (·.isLeft = true) := by
  refine (failsOnly_plain _).bind_of_eq_ok fun mappings hmappings => ?_
  refine Except.FailsOnly.bind (.mapM fun mapping hmapping => ?_) fun properties => ?_
  · exact failsOnly_readProperty
      (hresolves mappings (orWrong_eq_ok_iff.mp (plain_eq_ok_iff.mp hmappings)) mapping hmapping)
  · exact (failsOnly_plain _).bind fun members => Except.failsOnly_ok _

/-- As long as the types of all properties denote types, only forms are wrong. -/
theorem failsOnly_ofDocument (hresolves : TypesResolve settings document) :
    (ofDocument settings document).FailsOnly (·.isLeft = true) := by
  unfold ofDocument
  split
  · exact Except.failsOnly_ok _
  · refine (failsOnly_plain _).bind_of_eq_ok fun raw hraw => ?_
    refine (failsOnly_plain _).bind_of_eq_ok fun entries hentries => ?_
    -- The types are resolved over the declared entries, which stand beside what they were read
    -- from.
    obtain ⟨hpairs, hfst⟩ := mapM_declareWith_zip (plain_eq_ok_iff.mp hentries)
    have hpairsResolve := hresolves raw (Except.mem_toOption_iff.mpr (plain_eq_ok_iff.mp hraw)) _
      (Except.mem_toOption_iff.mpr hpairs)
    rw [hfst] at hpairsResolve
    exact Except.FailsOnly.bind (.mapM fun pair hpair =>
      failsOnly_fillMembers (hpairsResolve pair hpair)) fun filled => Except.failsOnly_ok _

/-! ### Acceptance -/

/-- Null counts as nothing wherever more may do so. -/
theorem covers_isVoid (document : Document) : Covers document Value.isNull document.isVoid := by
  intro owner fields _ key _ value _ hnull
  obtain rfl := isNull_iff.mp hnull
  exact .inl rfl

/-- **Acceptance.**  As long as the types of its properties denote types, a document is accepted
exactly if it is a catalog in which any value that counts as nothing may stand for an empty list,
and every other one is rejected for its form.  So whatever is a catalog with nothing but null in
place of lists is accepted; and nothing else is, unless false, zero, an empty text or an empty
mapping stands under the key of a list. -/
theorem accepted_iff_isCatalog (hresolves : TypesResolve settings document) :
    ((∃ catalog, ofDocument settings document = .ok catalog) ↔
        IsCatalog document document.isVoid) ∧
      ((∃ problem, ofDocument settings document = .error (.inl problem)) ↔
        ¬ IsCatalog document document.isVoid) ∧
      (IsCatalog document Value.isNull → IsCatalog document document.isVoid) ∧
      (Covers document document.isVoid Value.isNull →
        (IsCatalog document document.isVoid ↔ IsCatalog document Value.isNull)) ∧
      ∀ standIn label text, Document.read standIn text = .ok document →
        ((∃ catalog, read settings label text standIn = .ok catalog) ↔
          IsCatalog document document.isVoid) ∧
        ((∃ problem, read settings label text standIn = .error (.schema label problem)) ↔
          ¬ IsCatalog document document.isVoid) := by
  have haccepted := exists_ofDocument_iff hresolves
  have hrejected : (∃ problem, ofDocument settings document = .error (.inl problem)) ↔
      ¬ IsCatalog document document.isVoid := by
    rw [← haccepted]
    have hform := failsOnly_ofDocument hresolves
    -- An outcome is a catalog or an error, and no error is left but one of form.
    cases houtcome : ofDocument settings document with
    | ok catalog => exact iff_of_false nofun (not_not_intro ⟨catalog, rfl⟩)
    | error error =>
      cases error with
      | inl problem => exact iff_of_true ⟨problem, rfl⟩ nofun
      | inr error => cases hform _ houtcome
  refine ⟨haccepted, hrejected, (covers_isVoid document).isCatalog,
    fun hcovers => ⟨hcovers.isCatalog, (covers_isVoid document).isCatalog⟩,
    fun standIn label text htext => ⟨.trans ?_ haccepted, .trans ?_ hrejected⟩⟩
  · simp only [read, htext, Except.mapError_eq_ok_iff]
  -- A text adds its label to the error, and keeps the two kinds of errors apart.
  · simp only [read, htext, Except.mapError_eq_error_iff]
    constructor
    · rintro ⟨problem, error, herror, hproblem⟩
      cases error with
      | inl other => exact ⟨other, herror⟩
      | inr error => cases hproblem
    · rintro ⟨problem, herror⟩
      exact ⟨problem, .inl problem, herror, rfl⟩

/-- A document with false in place of its types. -/
def falseTypes : Document where
  root := .collection 0
  collections := #[.mapping [(.text "types", .scalar (.bool false))]]

/-- Documents hold floating-point numbers, so that two are equal is not decided; this is. -/
def isFalseTypes : Document → Bool
  | ⟨.collection 0, ⟨[.mapping [(.text "types", .scalar (.bool false))]]⟩⟩ => true
  | _ => false

/-- The text with a truth value for the list of types is read as that document. -/
theorem read_falseTypes : Document.read Text.standIn "types: false\n" = .ok falseTypes := by
  have h : (Document.read Text.standIn "types: false\n").toOption.any isFalseTypes = true := by
    decide +kernel
  obtain ⟨document, hread, hdocument⟩ := Except.exists_of_any h
  rw [hread]
  unfold isFalseTypes at hdocument
  split at hdocument
  · rfl
  · cases hdocument

/-- The shop is accepted, so its document is a catalog; and false stands for an empty list. -/
theorem accepted_iff_isCatalog_shop :
    TypesResolve {} shop ∧ (∃ catalog, ofDocument {} shop = .ok catalog) ∧
      IsCatalog shop shop.isVoid ∧
    TypesResolve {} falseTypes ∧ IsCatalog falseTypes falseTypes.isVoid ∧
      ∃ catalog, read {} "<string>" "types: false\n" = .ok catalog := by
  have hshop : TypesResolve {} shop := by decide +kernel
  have hfalse : TypesResolve {} falseTypes := by decide +kernel
  have hread : (ofDocument {} shop).isOk = true := by decide +kernel
  have hcatalog := Except.isOk_iff.mp hread
  have hform : IsCatalog falseTypes falseTypes.isVoid :=
    (accepted_iff_isCatalog hfalse).1.mp ⟨_, rfl⟩
  obtain ⟨-, -, -, -, htext⟩ := accepted_iff_isCatalog hfalse
  exact ⟨hshop, hcatalog, (accepted_iff_isCatalog hshop).1.mp hcatalog, hfalse, hform,
    (htext _ "<string>" _ read_falseTypes).1.mpr hform⟩

/-- False stands for an empty list of types, though it is neither null nor a list. -/
theorem falseTypes_accepted :
    Document.read Text.standIn "types: false\n" = .ok falseTypes ∧ TypesResolve {} falseTypes ∧
      ¬ IsCatalog falseTypes Value.isNull ∧
      read {} "<string>" "types: false\n" = .ok {} := by
  refine ⟨read_falseTypes, by decide +kernel, ?_, ?_⟩
  · rintro (hnull | ⟨fields, hfields, -, htypes⟩)
    · cases hnull
    · obtain rfl := Option.some.inj hfields
      obtain hnull | ⟨items, hitems, -⟩ := htypes _ rfl
      · cases hnull
      · cases hitems
  · rw [read, read_falseTypes]
    rfl

end TypeExport.Catalog
