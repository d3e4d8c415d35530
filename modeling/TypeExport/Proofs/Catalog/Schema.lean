import TypeExport.Proofs.Catalog.Members

/-!
# The schema of catalogs

What a document has to look like to be a catalog, as a predicate on values: which keys a mapping may
have, and which form the values under them have.  A list may be left out in several ways, so the
schema is stated over the values that count as nothing where a list is expected.

* `OnlyKeys`, `Requires`, `Allows` — what a mapping says under its keys.
* `IsText`, `IsName`, `IsBoolean`, `IsInteger`, `IsScalar`, `OrNull` — forms of scalars.
* `IsMapping`, `IsList` — forms of collections.
* `IsMarker`, `IsProperty`, `IsValued`, `IsEntry`, `IsCatalog` — forms of the parts of a catalog.
* `Covers`, `Covers.isCatalog` — catalogs by two meanings of what counts as nothing.
* `Reads`, `exists_checkKeys_iff`, `exists_textList_iff`, `exists_readMappings_iff`,
  `exists_readMarkers_iff` — keys, lists and markers are read exactly if they have their forms.
-/

namespace TypeExport.Catalog

open Yaml (Document Value Fields)

/-! ### Forms -/

/-- No keys but those allowed, which are texts. -/
def OnlyKeys (allowed : List String) (fields : Fields) : Prop :=
  ∀ field ∈ fields, ∃ key ∈ allowed, field.1 = .text key

/-- A value of the form stands under the key. -/
def Requires (fields : Fields) (key : String) (form : Value → Prop) : Prop :=
  ∃ value, Value.find? fields key = some value ∧ form value

/-- Whatever stands under the key has the form; nothing has to stand there. -/
def Allows (fields : Fields) (key : String) (form : Value → Prop) : Prop :=
  ∀ value, Value.find? fields key = some value → form value

/-- A text, which may be empty. -/
def IsText (value : Value) : Prop :=
  ∃ text, value = .scalar (.text text)

/-- A text with at least one character. -/
def IsName (value : Value) : Prop :=
  ∃ text, text ≠ "" ∧ value = .scalar (.text text)

/-- The value is a truth value. -/
def IsBoolean (value : Value) : Prop :=
  ∃ truth, value = .scalar (.bool truth)

/-- An integer, which no boolean is. -/
def IsInteger (value : Value) : Prop :=
  ∃ number, value = .scalar (.int number)

/-- The value is a scalar of any kind. -/
def IsScalar (value : Value) : Prop :=
  ∃ scalar, value = .scalar scalar

/-- Null may stand for a value of the form. -/
def OrNull (form : Value → Prop) (value : Value) : Prop :=
  value = .null ∨ form value

section

variable (document : Document)

/-- A mapping whose fields have the form. -/
def IsMapping (form : Fields → Prop) (value : Value) : Prop :=
  ∃ fields, document.fields? value = some fields ∧ form fields

variable (nothing : Value → Bool)

/-- A list of items of the form, or a value that counts as nothing. -/
def IsList (form : Value → Prop) (value : Value) : Prop :=
  nothing value = true ∨ ∃ items, document.items? value = some items ∧ ∀ item ∈ items, form item

/-- The fields of a marker with arguments. -/
structure HasMarker (fields : Fields) : Prop where
  keys : OnlyKeys ["type", "arguments"] fields
  type : Requires fields "type" IsName
  arguments : Allows fields "arguments" (IsList document nothing IsScalar)

/-- A marker: its type alone, or with arguments. -/
def IsMarker (value : Value) : Prop :=
  IsText value ∨ IsMapping document (HasMarker document nothing) value

/-- Markers may be left out, and only null counts as nothing here. -/
def AllowsMarkers (fields : Fields) : Prop :=
  Allows fields "attributes" (IsList document Value.isNull (IsMarker document nothing))

/-- The fields of a property. -/
structure IsProperty (fields : Fields) : Prop where
  keys : OnlyKeys ["name", "type", "required", "attributes"] fields
  name : Requires fields "name" IsName
  type : Requires fields "type" IsName
  isRequired : Allows fields "required" (OrNull IsBoolean)
  markers : AllowsMarkers document nothing fields

/-- The fields of a field or constant, whose value has the form. -/
structure IsValued (form : Value → Prop) (fields : Fields) : Prop where
  keys : OnlyKeys valueKeys fields
  name : Requires fields "name" IsName
  value : Requires fields "value" form
  markers : AllowsMarkers document nothing fields

/-- A list of mappings whose fields have the form may stand under the key. -/
def AllowsMappings (fields : Fields) (key : String) (form : Fields → Prop) : Prop :=
  Allows fields key (IsList document nothing (IsMapping document form))

/-- What an entry says about the type itself. -/
structure DeclaresType (fields : Fields) : Prop where
  parameters : Allows fields "type-parameters" (IsList document nothing IsText)
  space : Allows fields "namespace" (OrNull IsText)
  isEnum : Allows fields "enum" IsBoolean
  interfaces : Allows fields "interfaces" (IsList document nothing IsText)
  markers : AllowsMarkers document nothing fields

/-- What an entry says about the members of the type. -/
structure HasMembers (fields : Fields) : Prop where
  properties : AllowsMappings document nothing fields "properties" (IsProperty document nothing)
  enumFields : AllowsMappings document nothing fields "fields" (IsValued document nothing IsInteger)
  constants : AllowsMappings document nothing fields "constants" (IsValued document nothing IsText)

/-- The fields of a type. -/
structure IsEntry (fields : Fields) : Prop extends
    DeclaresType document nothing fields, HasMembers document nothing fields where
  keys : OnlyKeys entryKeys fields
  name : Requires fields "name" IsName

/-- The fields of a whole document. -/
structure HasTypes (fields : Fields) : Prop where
  keys : OnlyKeys ["types"] fields
  types : AllowsMappings document nothing fields "types" (IsEntry document nothing)

/-- The document is a catalog; null is an empty one. -/
def IsCatalog : Prop :=
  OrNull (IsMapping document (HasTypes document nothing)) document.root

end

variable {document : Document} {nothing nothing' : Value → Bool} {fields : Fields} {key : String}
  {place : Place}

/-! ### What counts as nothing -/

/-- Keys of lists that may be left out. -/
def listKeys : List String :=
  ["types", "type-parameters", "interfaces", "properties", "fields", "constants", "arguments"]

/-- What counts as nothing in one way under the keys of lists does so in another way, too, unless it
is a list without items. -/
def Covers (document : Document) (nothing nothing' : Value → Bool) : Prop :=
  ∀ owner fields, document.fields? owner = some fields → ∀ key ∈ listKeys,
    Allows fields key fun value =>
      nothing value = true → nothing' value = true ∨ document.items? value = some []

/-- A mapping of one form is one of a weaker form; the forms may ask what the fields are. -/
theorem IsMapping.imp {part part' : Fields → Prop} {value : Value}
    (himp : ∀ fields, document.fields? value = some fields → part fields → part' fields)
    (h : IsMapping document part value) : IsMapping document part' value := by
  obtain ⟨fields, hfields, hpart⟩ := h
  exact ⟨fields, hfields, himp fields hfields hpart⟩

/-- A list of one form is one of a weaker form, also where more counts as nothing. -/
theorem IsList.imp {form form' : Value → Prop} {value : Value}
    (hnothing : nothing value = true → nothing' value = true ∨ document.items? value = some [])
    (himp : ∀ value, form value → form' value) (h : IsList document nothing form value) :
    IsList document nothing' form' value := by
  obtain hvalue | ⟨items, hitems, hforms⟩ := h
  · exact (hnothing hvalue).imp_right fun hitems => ⟨[], hitems, nofun⟩
  · exact .inr ⟨items, hitems, fun item hitem => himp item (hforms item hitem)⟩

section

variable {owner : Value} (hcovers : Covers document nothing nothing')
  (hfields : document.fields? owner = some fields)

include hcovers hfields

/-- A list under one of the keys is one by the other reading of nothing. -/
theorem Covers.isList {form : Value → Prop} (hkey : key ∈ listKeys)
    (h : Allows fields key (IsList document nothing form)) :
    Allows fields key (IsList document nothing' form) := by
  intro value hvalue
  have hnothing := hcovers owner fields hfields key hkey value hvalue
  exact (h value hvalue).imp hnothing fun _ => id

/-- Mappings under one of the keys are so by the other reading of nothing. -/
theorem Covers.mappings {part part' : Fields → Prop} (hkey : key ∈ listKeys)
    (himp : ∀ owner fields, document.fields? owner = some fields → part fields → part' fields)
    (h : AllowsMappings document nothing fields key part) :
    AllowsMappings document nothing' fields key part' := by
  intro value hvalue
  have hnothing := hcovers owner fields hfields key hkey value hvalue
  exact (h value hvalue).imp hnothing
    fun item => .imp fun fields hfields => himp item fields hfields

omit hfields in
/-- Markers are so by the other reading of nothing. -/
theorem Covers.markers (h : AllowsMarkers document nothing fields) :
    AllowsMarkers document nothing' fields := by
  -- Only null stands for an empty list of markers either way; their arguments are another matter.
  intro value hvalue
  refine (h value hvalue).imp .inl fun item hitem => ?_
  refine hitem.imp_right (.imp fun fields hfields hmarker => ?_)
  exact { hmarker with arguments := hcovers.isList hfields (by decide) hmarker.arguments }

/-- What declares a type does so by the other reading of nothing. -/
theorem Covers.declaresType (h : DeclaresType document nothing fields) :
    DeclaresType document nothing' fields where
  parameters := hcovers.isList hfields (by decide) h.parameters
  space := h.space
  isEnum := h.isEnum
  interfaces := hcovers.isList hfields (by decide) h.interfaces
  markers := hcovers.markers h.markers

/-- What lists members does so by the other reading of nothing. -/
theorem Covers.hasMembers (h : HasMembers document nothing fields) :
    HasMembers document nothing' fields where
  properties := hcovers.mappings hfields (by decide)
    (fun _ _ _ hproperty => { hproperty with markers := hcovers.markers hproperty.markers })
    h.properties
  enumFields := hcovers.mappings hfields (by decide)
    (fun _ _ _ hfield => { hfield with markers := hcovers.markers hfield.markers }) h.enumFields
  constants := hcovers.mappings hfields (by decide)
    (fun _ _ _ hconstant => { hconstant with markers := hcovers.markers hconstant.markers })
    h.constants

end

/-- What is a catalog in one way is a catalog in any way that covers it. -/
theorem Covers.isCatalog (hcovers : Covers document nothing nothing')
    (h : IsCatalog document nothing) : IsCatalog document nothing' := by
  refine h.imp_right (.imp fun fields hfields htypes => ⟨htypes.keys, ?_⟩)
  refine hcovers.mappings hfields (by decide) (fun owner fields hfields hentry => ?_) htypes.types
  exact {
    toDeclaresType := hcovers.declaresType hfields hentry.toDeclaresType
    toHasMembers := hcovers.hasMembers hfields hentry.toHasMembers
    keys := hentry.keys
    name := hentry.name }

/-! ### Scalars -/

/-- A value has the form exactly if something is read from it. -/
def Reads {α : Type} (read : Value → Option α) (form : Value → Prop) : Prop :=
  ∀ value, (∃ result, read value = some result) ↔ form value

/-- A value has a text exactly if it is that text. -/
theorem text?_eq_some_iff {value : Value} {text : String} :
    value.text? = some text ↔ value = .scalar (.text text) := by
  cases value with
  | collection number => exact ⟨nofun, nofun⟩
  | scalar scalar => cases scalar <;> simp [Value.text?, Value.scalar?, Scalar.text?]

/-- Texts are read from texts. -/
theorem reads_text : Reads Value.text? IsText := fun _ => by
  simp only [text?_eq_some_iff, IsText]

/-- Names are read from texts that are not empty. -/
theorem reads_name : Reads Value.nonEmptyText? IsName := fun value => by
  simp only [Value.nonEmptyText?, Option.filter_eq_some_iff, text?_eq_some_iff, IsName, bne_iff_ne,
    and_comm]

/-- Booleans are read from booleans. -/
theorem reads_boolean : Reads Value.boolean? IsBoolean := fun value => by
  cases value with
  | collection number => exact ⟨nofun, nofun⟩
  | scalar scalar => cases scalar <;> simp [Value.boolean?, IsBoolean]

/-- Integers are read from integers. -/
theorem reads_integer : Reads Value.integer? IsInteger := fun value => by
  cases value with
  | collection number => exact ⟨nofun, nofun⟩
  | scalar scalar => cases scalar <;> simp [Value.integer?, IsInteger]

/-- Scalars are read from scalars. -/
theorem reads_scalar : Reads Value.scalar? IsScalar := fun value => by
  cases value <;> simp [Value.scalar?, IsScalar]

/-- Only the null value is null. -/
theorem isNull_iff {value : Value} : value.isNull = true ↔ value = .null := by
  cases value with
  | collection number => exact ⟨nofun, nofun⟩
  | scalar scalar => cases scalar <;> simp [Value.isNull, Value.null]

/-! ### Keys -/

/-- A key is allowed if it is one of the allowed texts. -/
theorem isAllowed_iff {allowed : List String} {key : Scalar} :
    Yaml.isAllowed allowed key = true ↔ ∃ text ∈ allowed, key = .text text := by
  cases key <;> simp [Yaml.isAllowed, Scalar.text?]

/-- No key is unknown exactly if all are allowed. -/
theorem unknownKey?_eq_none_iff {allowed : List String} :
    Yaml.unknownKey? allowed fields = none ↔ OnlyKeys allowed fields := by
  rw [Yaml.unknownKey?, least?_eq_none_iff, List.map_eq_nil_iff, List.filter_eq_nil_iff]
  simp only [OnlyKeys, Bool.not_eq_true', Bool.not_eq_false, isAllowed_iff]

/-- The check of keys passes exactly if all are allowed. -/
theorem exists_checkKeys_iff {allowed : List String} :
    (∃ result, checkKeys place allowed fields = .ok result) ↔ OnlyKeys allowed fields := by
  rw [← unknownKey?_eq_none_iff, ← checkKeys_eq_ok_iff]
  exact ⟨fun ⟨_, h⟩ => h, fun h => ⟨(), h⟩⟩

/-- What is required under a key is read exactly if it stands there. -/
theorem exists_orWrong_iff {α : Type} {read : Value → Option α} {form : Value → Prop}
    {expected : Yaml.Expected} (h : Reads read form) :
    (∃ result, orWrong place key expected ((Value.find? fields key).bind read) = .ok result) ↔
      Requires fields key form := by
  simp only [orWrong_eq_ok_iff, Option.bind_eq_some_iff]
  constructor
  · rintro ⟨result, value, hvalue, hresult⟩
    exact ⟨value, hvalue, (h value).mp ⟨result, hresult⟩⟩
  · rintro ⟨value, hvalue, hform⟩
    obtain ⟨result, hresult⟩ := (h value).mpr hform
    exact ⟨result, value, hvalue, hresult⟩

/-- A required text is read exactly if a name stands under the key. -/
theorem exists_requiredText_iff :
    (∃ text, requiredText place fields key = .ok text) ↔ Requires fields key IsName :=
  exists_orWrong_iff reads_name

/-- The mark of enumerations is read exactly if it is absent or a boolean. -/
theorem exists_readIsEnum_iff :
    (∃ isEnum, readIsEnum place fields = .ok isEnum) ↔ Allows fields "enum" IsBoolean := by
  unfold readIsEnum Allows
  cases Value.find? fields "enum" with
  | none => exact iff_of_true ⟨false, rfl⟩ nofun
  | some value => simp [orWrong_eq_ok_iff, ← reads_boolean value]

/-- What may also be null is read exactly if it is null or has the form. -/
theorem exists_orNull_iff {α β : Type} {read : Value → Option α} {form : Value → Prop}
    {expected : Yaml.Expected} {value : Value} {absent : β} {next : α → β} (h : Reads read form) :
    (∃ result, (if value.isNull then .ok absent
      else orWrong place key expected (read value) >>= fun found => .ok (next found)) =
        .ok result) ↔ OrNull form value := by
  unfold OrNull
  rw [← isNull_iff, ← h value]
  by_cases hnull : value.isNull = true
  · rw [if_pos hnull]
    exact iff_of_true ⟨absent, rfl⟩ (.inl hnull)
  · rw [if_neg hnull, or_iff_right hnull]
    cases read value with
    | none => exact iff_of_false nofun nofun
    | some found => exact iff_of_true ⟨next found, rfl⟩ ⟨found, rfl⟩

/-- A namespace is read exactly if it is absent, null or a text. -/
theorem exists_readSpace_iff :
    (∃ space?, readSpace place fields = .ok space?) ↔
      Allows fields "namespace" (OrNull IsText) := by
  unfold readSpace Allows
  cases Value.find? fields "namespace" with
  | none => exact iff_of_true ⟨none, rfl⟩ nofun
  | some value =>
    simp only [Option.some.injEq, forall_eq']
    exact exists_orNull_iff reads_text

/-- The mark of required values is read exactly if it is absent, null or a boolean. -/
theorem exists_readIsRequired_iff :
    (∃ isRequired?, readIsRequired place fields = .ok isRequired?) ↔
      Allows fields "required" (OrNull IsBoolean) := by
  unfold readIsRequired Allows
  cases Value.find? fields "required" with
  | none => exact iff_of_true ⟨none, rfl⟩ nofun
  | some value =>
    simp only [Option.some.injEq, forall_eq']
    exact exists_orNull_iff reads_boolean

/-! ### Lists -/

/-- Items with a property are found exactly if a list of them, or something that counts as nothing,
may stand there. -/
theorem exists_itemList_iff {form : Value → Prop} {value? : Option Value} :
    (∃ items, document.itemList? value? = some items ∧ ∀ item ∈ items, form item) ↔
      ∀ value, value? = some value → IsList document document.isVoid form value := by
  cases value? with
  | none => exact iff_of_true ⟨[], rfl, nofun⟩ nofun
  | some value =>
    simp only [Option.some.injEq, forall_eq', Document.itemList?, IsList]
    by_cases hvoid : document.isVoid value = true
    · rw [if_pos hvoid]
      exact iff_of_true ⟨[], rfl, nofun⟩ (.inl hvoid)
    · rw [if_neg hvoid, or_iff_right hvoid]

/-- The items of a list are read exactly if each has the form. -/
theorem exists_readItems_iff {α : Type} {read : Value → Option α} {form : Value → Prop}
    (h : Reads read form) {value? : Option Value} :
    (∃ results, (document.itemList? value?).bind (·.mapM read) = some results) ↔
      ∀ value, value? = some value → IsList document document.isVoid form value := by
  have hitems (items : List Value) :
      (∃ results, items.mapM read = some results) ↔ ∀ item ∈ items, form item := by
    have hread : (∃ results, items.mapM read = some results ∧ ∀ result ∈ results, True) ↔
        ∀ item ∈ items, ∃ result, read item = some result ∧ True := Option.exists_mapM_eq_some_iff
    simpa [h _] using hread
  rw [← exists_itemList_iff]
  simp only [Option.bind_eq_some_iff, ← hitems]
  exact ⟨fun ⟨results, items, hitems, hresults⟩ => ⟨items, hitems, results, hresults⟩,
    fun ⟨items, hitems, results, hresults⟩ => ⟨results, items, hitems, hresults⟩⟩

/-- A list of texts is read exactly if one may stand under the key. -/
theorem exists_textList_iff :
    (∃ texts, textList document place fields key = .ok texts) ↔
      Allows fields key (IsList document document.isVoid IsText) := by
  simp only [textList, orWrong_eq_ok_iff]
  exact exists_readItems_iff reads_text

/-- Mappings with a property are found exactly if a list of them, or something that counts as
nothing, may stand under the key. -/
theorem exists_mappingList_iff {part : Fields → Prop} :
    (∃ mappings, mappingList document place fields key = .ok mappings ∧
        ∀ mapping ∈ mappings, part mapping) ↔
      AllowsMappings document document.isVoid fields key part := by
  simp only [AllowsMappings, Allows, ← exists_itemList_iff, IsMapping,
    ← Option.exists_mapM_eq_some_iff, mappingList, orWrong_eq_ok_iff]
  constructor
  · rintro ⟨mappings, hmappings, hparts⟩
    obtain ⟨items, hitems, hmappings⟩ := Option.bind_eq_some_iff.mp hmappings
    exact ⟨items, hitems, mappings, hmappings, hparts⟩
  · rintro ⟨items, hitems, mappings, hmappings, hparts⟩
    exact ⟨mappings, Option.bind_eq_some_iff.mpr ⟨items, hitems, hmappings⟩, hparts⟩

/-- The mappings of a list are read exactly if each is read. -/
theorem exists_readMappings_iff {ε α : Type} {step : Fields → Except ε α} {part : Fields → Prop}
    (hstep : ∀ mappings, mappingList document place fields key = .ok mappings →
      ∀ mapping ∈ mappings, ((∃ result, step mapping = .ok result) ↔ part mapping)) :
    (∃ mappings, mappingList document place fields key = .ok mappings ∧
        ∃ results, mappings.mapM step = .ok results) ↔
      AllowsMappings document document.isVoid fields key part := by
  rw [← exists_mappingList_iff]
  simp only [Except.exists_mapM_eq_ok_iff]
  refine exists_congr fun mappings => and_congr_right fun hmappings => ?_
  exact forall₂_congr fun mapping hmapping => hstep mappings hmappings mapping hmapping

/-! ### Markers -/

/-- The form of a marker, as the three steps of its reading. -/
theorem hasMarker_iff (place : Place) :
    HasMarker document document.isVoid fields ↔
      (∃ result, checkKeys (.marker place) ["type", "arguments"] fields = .ok result) ∧
      (∃ type, requiredText (.marker place) fields "type" = .ok type) ∧
      ∃ arguments, document.scalarList? (Value.find? fields "arguments") = some arguments := by
  rw [exists_checkKeys_iff, exists_requiredText_iff]
  exact ⟨fun ⟨hkeys, htype, harguments⟩ =>
      ⟨hkeys, htype, (exists_readItems_iff reads_scalar).mpr harguments⟩,
    fun ⟨hkeys, htype, harguments⟩ =>
      ⟨hkeys, htype, (exists_readItems_iff reads_scalar).mp harguments⟩⟩

/-- A marker is read exactly if the value has the form of one. -/
theorem exists_readMarker_iff {value : Value} :
    (∃ marker, readMarker document place value = .ok marker) ↔
      IsMarker document document.isVoid value := by
  cases value with
  | scalar scalar =>
    -- A scalar has no fields, so only a text is a marker.
    have hfields : document.fields? (.scalar scalar) = none := rfl
    have hmapping : ¬ IsMapping document (HasMarker document document.isVoid) (.scalar scalar) := by
      rintro ⟨fields, hsome, -⟩
      cases hfields.symm.trans hsome
    rw [IsMarker, or_iff_left hmapping, ← reads_text, readMarker, hfields]
    cases (Value.scalar scalar).text? with
    | none => exact iff_of_false nofun nofun
    | some text => exact iff_of_true ⟨_, rfl⟩ ⟨text, rfl⟩
  | collection number =>
    have htext : ¬ IsText (.collection number) := nofun
    rw [IsMarker, or_iff_right htext]
    simp only [readMarker_eq_ok_iff, IsMapping, hasMarker_iff place]
    constructor
    · rintro ⟨marker, fields, type, arguments, hfields, hkeys, htype, harguments, -⟩
      exact ⟨fields, hfields, ⟨(), hkeys⟩, ⟨type, htype⟩, ⟨arguments, harguments⟩⟩
    · rintro ⟨fields, hfields, ⟨⟨⟩, hkeys⟩, ⟨type, htype⟩, ⟨arguments, harguments⟩⟩
      exact ⟨_, fields, type, arguments, hfields, hkeys, htype, harguments, rfl⟩

/-- Markers are read exactly if they may stand under their key. -/
theorem exists_readMarkers_iff :
    (∃ markers, readMarkers document place fields = .ok markers) ↔
      AllowsMarkers document document.isVoid fields := by
  have hmarkers (items : List Value) :
      (∃ markers, items.mapM (readMarker document place) = .ok markers) ↔
        ∀ item ∈ items, IsMarker document document.isVoid item := by
    simp only [Except.exists_mapM_eq_ok_iff, exists_readMarker_iff]
  unfold readMarkers AllowsMarkers Allows
  cases Value.find? fields "attributes" with
  | none => exact iff_of_true ⟨[], rfl⟩ nofun
  | some value =>
    simp only [Option.some.injEq, forall_eq', IsList]
    -- Null stands for no markers, like a missing field.
    by_cases hnull : value.isNull = true
    · rw [if_pos hnull]
      exact iff_of_true ⟨[], rfl⟩ (.inl hnull)
    · rw [if_neg hnull, or_iff_right hnull]
      simp only [← hmarkers, Except.bind_eq_ok_iff, orWrong_eq_ok_iff]
      constructor
      · rintro ⟨markers, items, hitems, hmarkers⟩
        exact ⟨items, hitems, markers, hmarkers⟩
      · rintro ⟨items, hitems, markers, hmarkers⟩
        exact ⟨markers, items, hitems, hmarkers⟩

end TypeExport.Catalog
