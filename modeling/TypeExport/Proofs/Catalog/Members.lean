import TypeExport.Proofs.Catalog.Places
import TypeExport.Proofs.Catalog.Reading
import TypeExport.Proofs.Catalog.Reordering

/-!
# Types and members read alike

From a document and one with its types in another order the same is read: an entry declares the same
type, and its members are the same, with the references in their types moved to where the declared
types stand now.  Only a list of types holds something else than before; where one stands in the
place of another list, reading fails, because entries lack what is asked for there.

* `Reordering.scalars`, `Reordering.mappings` — lists of scalars and of mappings.
* `Reordering.readMarkers` — markers.
* `Reordering.declare` — the type that an entry declares.
* `Reordering.fillMembers` — its members.
-/

namespace TypeExport

open Yaml (Document Value Fields Expected)

namespace Catalog

/-! ### Keys -/

/-- Steps that keep having a result have one in the end. -/
theorem isSome_foldl {α β : Type} {step : Option α → β → Option α}
    (hstep : ∀ value item, (step (some value) item).isSome = true) (items : List β) (value : α) :
    (items.foldl step (some value)).isSome = true := by
  induction items generalizing value with
  | nil => rfl
  | cons item rest ih =>
    obtain ⟨next, hnext⟩ := Option.isSome_iff_exists.mp (hstep value item)
    rw [List.foldl_cons, hnext]
    exact ih next

/-- Only among no texts there is no least one. -/
theorem least?_eq_none_iff {texts : List String} : Yaml.least? texts = none ↔ texts = [] := by
  unfold Yaml.least?
  cases texts with
  | nil => exact ⟨fun _ => rfl, fun _ => rfl⟩
  | cons text rest =>
    refine iff_of_false (Option.ne_none_iff_isSome.mpr ?_) (List.cons_ne_nil _ _)
    refine isSome_foldl (fun least text => ?_) rest text
    dsimp only
    split_ifs <;> rfl

/-- Nothing stands under a key that is not allowed. -/
theorem find?_eq_none_of_unknownKey? {allowed : List String} {fields : Fields} {key : String}
    (h : Yaml.unknownKey? allowed fields = none) (hkey : key ∉ allowed) :
    Value.find? fields key = none := by
  unfold Yaml.unknownKey? at h
  rw [least?_eq_none_iff, List.map_eq_nil_iff, List.filter_eq_nil_iff] at h
  unfold Value.find?
  rw [Option.map_eq_none_iff, List.find?_eq_none]
  intro field hfield htext
  have hallowed := h field hfield
  unfold Yaml.isAllowed at hallowed
  rw [beq_iff_eq.mp htext] at hallowed
  simp [hkey] at hallowed

section

variable {same : Value → Value → Prop} {document document' : Document} {fields fields' : Fields}
  {place place' : Place} {key : String}

/-! ### Values under keys -/

/-- Reordered fields have allowed keys if the given ones have. -/
theorem SameFields.checkKeys {allowed : List String} {result : Unit}
    (hfields : SameFields same fields fields')
    (hresult : Catalog.checkKeys place allowed fields = .ok result) :
    Catalog.checkKeys place' allowed fields' = .ok result := by
  cases result
  rw [checkKeys_eq_ok_iff] at hresult ⊢
  rw [← hfields.unknownKey?, hresult]

/-- A scalar that is read under a key is read under it from reordered fields. -/
theorem Reordering.orWrong_bind {α : Type} {expected : Expected} {read : Value → Option α}
    {result : α} (h : Reordering same document document') (hfields : SameFields same fields fields')
    (hread : ReadsScalars read)
    (hresult : orWrong place key expected ((Value.find? fields key).bind read) = .ok result) :
    orWrong place' key expected ((Value.find? fields' key).bind read) = .ok result := by
  rw [orWrong_eq_ok_iff] at hresult ⊢
  rw [← hfields.bind_eq h hread, hresult]

/-- The namespace is read alike, down to the error. -/
theorem Reordering.readSpace_eq (h : Reordering same document document')
    (hfields : SameFields same fields fields') :
    readSpace place fields = readSpace place fields' := by
  unfold readSpace
  have hfind := hfields.find? "namespace"
  generalize Value.find? fields "namespace" = value?, Value.find? fields' "namespace" = value'?
    at hfind
  cases hfind with
  | none => rfl
  | some hsame =>
    dsimp only
    rw [readsScalars_isNull.eq (h.scalar hsame), readsScalars_text?.eq (h.scalar hsame)]

/-- Whether an entry is an enumeration is read alike, down to the error. -/
theorem Reordering.readIsEnum_eq (h : Reordering same document document')
    (hfields : SameFields same fields fields') :
    readIsEnum place fields = readIsEnum place fields' := by
  unfold readIsEnum
  have hfind := hfields.find? "enum"
  generalize Value.find? fields "enum" = value?, Value.find? fields' "enum" = value'? at hfind
  cases hfind with
  | none => rfl
  | some hsame =>
    dsimp only
    rw [readsScalars_boolean?.eq (h.scalar hsame)]

/-- Whether a property is required is read alike. -/
theorem Reordering.readIsRequired {result : Option Bool} (h : Reordering same document document')
    (hfields : SameFields same fields fields')
    (hresult : Catalog.readIsRequired place fields = .ok result) :
    Catalog.readIsRequired place' fields' = .ok result := by
  unfold Catalog.readIsRequired at hresult ⊢
  have hfind := hfields.find? "required"
  -- Only the two values count, which are the same scalar if one of them is a scalar at all.
  generalize Value.find? fields "required" = value?, Value.find? fields' "required" = value'?
    at hfind hresult ⊢
  cases hfind with
  | none => exact hresult
  | some hsame =>
    dsimp only at hresult ⊢
    rw [← readsScalars_isNull.eq (h.scalar hsame), ← readsScalars_boolean?.eq (h.scalar hsame)]
    split_ifs at hresult ⊢
    · exact hresult
    · obtain ⟨isRequired, hrequired, heq⟩ := Except.bind_eq_ok_iff.mp hresult
      rw [orWrong_eq_ok_iff] at hrequired
      exact Except.bind_eq_ok_iff.mpr ⟨isRequired, orWrong_eq_ok_iff.mpr hrequired, heq⟩

/-! ### Lists -/

/-- A list of entries has a mapping as an item, and no key in it but those of entries. -/
theorem IsEntryList.exists_mapping {items : List Value} (h : IsEntryList document items) :
    ∃ number fields, .collection number ∈ items ∧
      document.fields? (.collection number) = some fields ∧
        Yaml.unknownKey? entryKeys fields = none := by
  obtain ⟨item, hitem⟩ := List.exists_mem_of_ne_nil items h.1
  obtain ⟨⟨name, fields⟩, hentry⟩ := h.2 item hitem
  obtain ⟨hfields, hkeys, -⟩ := readEntry_eq_ok_iff.mp hentry
  cases item with
  | scalar => cases hfields
  | collection number => exact ⟨number, fields, hitem, hfields, hkeys⟩

/-- Scalars of a list are the same; entries are none. -/
theorem Reordering.scalars {α : Type} {read : Value → Option α} {results : List α}
    {value? value'? : Option Value} (h : Reordering same document document')
    (hentries : HasEntries document) (hread : ReadsScalars read)
    (hnone : ∀ number, read (.collection number) = none) (hsame : Option.Rel same value? value'?)
    (hresults : (document.itemList? value?).bind (·.mapM read) = some results) :
    (document'.itemList? value'?).bind (·.mapM read) = some results := by
  obtain ⟨items, hitems, hresults⟩ := Option.bind_eq_some_iff.mp hresults
  obtain ⟨items', hitems', hsameItems | hlist⟩ := h.itemList?_or_entries hentries hsame hitems
  · obtain ⟨results', hresults', hsameResults⟩ :=
      Option.exists_mapM_eq_some_of_forall₂ hsameItems (S := Eq)
        (fun item item' result hsame hitem =>
          ⟨result, hread.eq (h.scalar hsame) ▸ hitem, rfl⟩) hresults
    rw [List.forall₂_eq_eq_eq] at hsameResults
    rw [hsameResults]
    exact Option.bind_eq_some_iff.mpr ⟨items', hitems', hresults'⟩
  -- A list of entries holds a mapping, of which no scalar could have been read.
  · obtain ⟨number, -, hitem, -⟩ := hlist.exists_mapping
    obtain ⟨result, -, hresult⟩ := Option.exists_mem_of_mapM_eq_some hresults hitem
    cases (hnone number).symm.trans hresult

/-- A list of texts is read alike: lists keep their order. -/
theorem Reordering.textList {texts : List String} (h : Reordering same document document')
    (hentries : HasEntries document) (hfields : SameFields same fields fields')
    (htexts : Catalog.textList document place fields key = .ok texts) :
    Catalog.textList document' place' fields' key = .ok texts := by
  unfold Catalog.textList at htexts ⊢
  rw [orWrong_eq_ok_iff] at htexts ⊢
  exact h.scalars hentries readsScalars_text? (fun _ => rfl) (hfields.find? key) htexts

/-- What is read so is no entry: it has a value under a key that entries do not have. -/
def ReadsNoEntry {ε α : Type} (read : Fields → Except ε α) : Prop :=
  ∀ fields result, read fields = .ok result →
    ∃ key, key ∉ entryKeys ∧ Value.find? fields key ≠ none

/-- The mappings of a list are read alike, unless they are entries, which are not read at all. -/
theorem Reordering.mappings {ε ε' α β : Type} {read : Fields → Except ε α}
    {read' : Fields → Except ε' β} {mappings : List Fields} {results : List α} (change : α → β)
    (h : Reordering same document document') (hentries : HasEntries document)
    (hfields : SameFields same fields fields')
    (hread : ∀ fields fields' result, SameFields same fields fields' → read fields = .ok result →
      read' fields' = .ok (change result))
    (hforeign : ReadsNoEntry read)
    (hmappings : mappingList document place fields key = .ok mappings)
    (hresults : mappings.mapM read = .ok results) :
    ∃ mappings', mappingList document' place' fields' key = .ok mappings' ∧
      mappings'.mapM read' = .ok (results.map change) := by
  unfold mappingList at hmappings ⊢
  rw [orWrong_eq_ok_iff] at hmappings
  obtain ⟨items, hitems, hmappings⟩ := Option.bind_eq_some_iff.mp hmappings
  obtain ⟨items', hitems', hsameItems | hlist⟩ :=
    h.itemList?_or_entries hentries (hfields.find? key) hitems
  -- Items that keep their order have the same fields as before.
  · obtain ⟨mappings', hmappings', hsameMappings⟩ :=
      Option.exists_mapM_eq_some_of_forall₂ hsameItems
        (fun item item' fields hsame hfields => h.fields? hsame hfields) hmappings
    obtain ⟨results', hresults', hsameResults⟩ :=
      Except.exists_mapM_eq_ok_of_forall₂ hsameMappings (S := fun result result' =>
        change result = result') (fun fields fields' result hsame hresult =>
          ⟨change result, hread fields fields' result hsame hresult, rfl⟩) hresults
    rw [← List.forall₂_map_left_iff, List.forall₂_eq_eq_eq] at hsameResults
    refine ⟨mappings', orWrong_eq_ok_iff.mpr ?_, hsameResults ▸ hresults'⟩
    exact Option.bind_eq_some_iff.mpr ⟨items', hitems', hmappings'⟩
  -- The list is that of the types, and no mapping of another kind has the keys of an entry.
  · obtain ⟨number, entry, hitem, hentry, hkeys⟩ := hlist.exists_mapping
    obtain ⟨fields, hmem, hfields⟩ := Option.exists_mem_of_mapM_eq_some hmappings hitem
    obtain rfl : entry = fields := Option.some.inj (hentry.symm.trans hfields)
    obtain ⟨result, hresult⟩ := Except.exists_mapM_eq_ok_iff.mp ⟨results, hresults⟩ entry hmem
    obtain ⟨key, hkey, hfound⟩ := hforeign entry result hresult
    exact absurd (find?_eq_none_of_unknownKey? hkeys hkey) hfound

/-! ### Markers -/

/-- A marker is a mapping with a type and, at most, a list of arguments. -/
theorem readMarker_eq_ok_iff {number : Nat} {marker : Marker} :
    readMarker document place (.collection number) = .ok marker ↔
      ∃ fields type arguments, document.fields? (.collection number) = some fields ∧
        checkKeys (.marker place) ["type", "arguments"] fields = .ok () ∧
        requiredText (.marker place) fields "type" = .ok type ∧
        document.scalarList? (Value.find? fields "arguments") = some arguments ∧
        ⟨type, arguments⟩ = marker := by
  -- The short form is a text, so a collection is read as the long one.
  have htext : (Value.collection number).text? = none := rfl
  unfold readMarker
  rw [htext]
  cases document.fields? (.collection number) with
  | none =>
    constructor
    · nofun
    · rintro ⟨fields, _, _, hfields, -⟩
      cases hfields
  | some fields =>
    dsimp only
    constructor
    · intro h
      obtain ⟨⟨⟩, hkeys, h⟩ := Except.bind_eq_ok_iff.mp h
      obtain ⟨type, htype, h⟩ := Except.bind_eq_ok_iff.mp h
      split at h
      · next arguments harguments =>
        exact ⟨fields, type, arguments, rfl, hkeys, htype, harguments, Except.ok.inj h⟩
      · cases h
    · rintro ⟨others, type, arguments, hfields, hkeys, htype, harguments, rfl⟩
      obtain rfl := Option.some.inj hfields
      refine Except.bind_eq_ok_iff.mpr ⟨(), hkeys, Except.bind_eq_ok_iff.mpr ⟨type, htype, ?_⟩⟩
      rw [harguments]
      rfl

/-- A marker with arguments has a type under a key that entries do not have. -/
theorem IsEntryList.not_markers {items : List Value} {markers : List Marker}
    (h : IsEntryList document items)
    (hmarkers : items.mapM (readMarker document place) = .ok markers) : False := by
  obtain ⟨number, entry, hitem, hentry, hkeys⟩ := h.exists_mapping
  obtain ⟨marker, hmarker⟩ := Except.exists_mapM_eq_ok_iff.mp ⟨markers, hmarkers⟩ _ hitem
  obtain ⟨fields, type, -, hfields, -, htype, -⟩ := readMarker_eq_ok_iff.mp hmarker
  obtain rfl : entry = fields := Option.some.inj (hentry.symm.trans hfields)
  have hnone : Value.find? entry "type" = none :=
    find?_eq_none_of_unknownKey? hkeys (by decide)
  rw [requiredText, hnone] at htype
  cases htype

/-- A marker is read alike. -/
theorem Reordering.readMarker {value value' : Value} {marker : Marker}
    (h : Reordering same document document') (hentries : HasEntries document)
    (hsame : same value value')
    (hmarker : Catalog.readMarker document place value = .ok marker) :
    Catalog.readMarker document' place' value' = .ok marker := by
  -- Short markers are texts and the same in both; long ones may have their fields in another order.
  obtain ⟨scalar, rfl, rfl⟩ | ⟨number, number', rfl, rfl⟩ :=
    scalar_or_collection_of_scalar? (h.scalar hsame)
  · have htext : (Value.scalar scalar).text? = scalar.text? := rfl
    unfold Catalog.readMarker at hmarker ⊢
    rw [htext] at hmarker ⊢
    cases hscalar : scalar.text? with
    | some text =>
      rw [hscalar] at hmarker
      exact hmarker
    | none =>
      rw [hscalar] at hmarker
      cases hmarker
  · obtain ⟨fields, type, arguments, hfields, hkeys, htype, harguments, rfl⟩ :=
      readMarker_eq_ok_iff.mp hmarker
    obtain ⟨fields', hfields', hsameFields⟩ := h.fields? hsame hfields
    exact readMarker_eq_ok_iff.mpr ⟨fields', type, arguments, hfields', hsameFields.checkKeys hkeys,
      h.orWrong_bind hsameFields readsScalars_nonEmptyText? htype,
      h.scalars hentries (fun _ _ => rfl) (fun _ => rfl) (hsameFields.find? "arguments") harguments,
      rfl⟩

/-- The markers of an entry are read alike, in their order. -/
theorem Reordering.readMarkers {markers : List Marker} (h : Reordering same document document')
    (hentries : HasEntries document) (hfields : SameFields same fields fields')
    (hmarkers : Catalog.readMarkers document place fields = .ok markers) :
    Catalog.readMarkers document' place' fields' = .ok markers := by
  unfold Catalog.readMarkers at hmarkers ⊢
  have hfind := hfields.find? "attributes"
  generalize Value.find? fields "attributes" = value?, Value.find? fields' "attributes" = value'?
    at hfind hmarkers ⊢
  cases hfind with
  | none => exact hmarkers
  | some hsame =>
    dsimp only at hmarkers ⊢
    rw [← readsScalars_isNull.eq (h.scalar hsame)]
    split_ifs at hmarkers ⊢
    · exact hmarkers
    · obtain ⟨items, hitems, hmarkers⟩ := Except.bind_eq_ok_iff.mp hmarkers
      obtain ⟨items', hitems', hsameItems | hlist⟩ :=
        h.items?_or_entries hentries hsame (orWrong_eq_ok_iff.mp hitems)
      · obtain ⟨markers', hmarkers', hsameMarkers⟩ :=
          Except.exists_mapM_eq_ok_of_forall₂ hsameItems (S := Eq)
            (fun item item' marker hsame h' =>
              ⟨marker, h.readMarker hentries hsame h', rfl⟩) hmarkers
        rw [List.forall₂_eq_eq_eq] at hsameMarkers
        rw [hsameMarkers]
        exact Except.bind_eq_ok_iff.mpr ⟨items', orWrong_eq_ok_iff.mpr hitems', hmarkers'⟩
      -- The list would be that of the types, and entries are no markers.
      · exact absurd hmarkers hlist.not_markers

/-! ### Declared types -/

/-- What an entry declares about itself is read alike. -/
theorem Reordering.declare {name : String} {entry : TypeEntry}
    (h : Reordering same document document') (hentries : HasEntries document)
    (hfields : SameFields same fields fields')
    (hentry : Catalog.declare document name fields = .ok entry) :
    Catalog.declare document' name fields' = .ok entry := by
  simp only [Catalog.declare, Except.bind_eq_ok_iff] at hentry ⊢
  obtain ⟨parameters, hparameters, space?, hspace, isEnum, hisEnum, interfaces, hinterfaces,
    markers, hmarkers, hentry⟩ := hentry
  exact ⟨parameters, h.textList hentries hfields hparameters, space?,
    h.readSpace_eq hfields ▸ hspace, isEnum, h.readIsEnum_eq hfields ▸ hisEnum, interfaces,
    h.textList hentries hfields hinterfaces, markers, h.readMarkers hentries hfields hmarkers,
    hentry⟩

/-! ### Members -/

/-- What is required is there. -/
theorem find?_ne_none_of_requiredText {text : String}
    (h : requiredText place fields key = .ok text) : Value.find? fields key ≠ none := by
  intro hnone
  rw [requiredText, hnone] at h
  cases h

/-- A property is read only from a mapping that is not empty. -/
theorem readsNoEntry_readProperty (document : Document) (scope : Expression.Scope)
    (typeName : String) : ReadsNoEntry (readProperty document scope typeName) := by
  intro fields property h
  simp only [readProperty, Except.bind_eq_ok_iff, plain_eq_ok_iff] at h
  obtain ⟨-, -, -, -, expression, hexpression, -⟩ := h
  exact ⟨"type", by decide, find?_ne_none_of_requiredText hexpression⟩

/-- A field is read only from a mapping that is not empty. -/
theorem readsNoEntry_readField (document : Document) (typeName : String) :
    ReadsNoEntry (readField document typeName) := by
  intro fields field h
  simp only [readField, Except.bind_eq_ok_iff] at h
  obtain ⟨-, -, -, -, value, hvalue, -⟩ := h
  refine ⟨"value", by decide, fun hnone => ?_⟩
  rw [hnone] at hvalue
  cases hvalue

/-- A constant is read only from a mapping that is not empty. -/
theorem readsNoEntry_readConstant (document : Document) (typeName : String) :
    ReadsNoEntry (readConstant document typeName) := by
  intro fields constant h
  simp only [readConstant, Except.bind_eq_ok_iff] at h
  obtain ⟨-, -, -, -, value, hvalue, -⟩ := h
  refine ⟨"value", by decide, fun hnone => ?_⟩
  rw [hnone] at hvalue
  cases hvalue

/-- The type of a property moves along. -/
theorem Reordering.readProperty {scope scope' : Expression.Scope} {move : Nat → Nat}
    {typeName : String} {property : Property} (h : Reordering same document document')
    (hentries : HasEntries document) (hscope : scope.MovesTo move scope')
    (hfields : SameFields same fields fields')
    (hproperty : Catalog.readProperty document scope typeName fields = .ok property) :
    Catalog.readProperty document' scope' typeName fields' = .ok (property.moved move) := by
  simp only [Catalog.readProperty, Except.bind_eq_ok_iff, plain_eq_ok_iff,
    Except.mapError_eq_ok_iff] at hproperty ⊢
  obtain ⟨_, hkeys, name, hname, expression, hexpression, isRequired?, hrequired, type, htype,
    markers, hmarkers, hproperty⟩ := hproperty
  obtain rfl := Except.ok.inj hproperty
  exact ⟨(), hfields.checkKeys hkeys, name,
    h.orWrong_bind hfields readsScalars_nonEmptyText? hname, expression,
    h.orWrong_bind hfields readsScalars_nonEmptyText? hexpression, isRequired?,
    h.readIsRequired hfields hrequired, type.moved move, hscope.parse htype, markers,
    h.readMarkers hentries hfields hmarkers, rfl⟩

/-- A field is read alike. -/
theorem Reordering.readField {typeName : String} {field : Field}
    (h : Reordering same document document') (hentries : HasEntries document)
    (hfields : SameFields same fields fields')
    (hfield : Catalog.readField document typeName fields = .ok field) :
    Catalog.readField document' typeName fields' = .ok field := by
  simp only [Catalog.readField, Except.bind_eq_ok_iff] at hfield ⊢
  obtain ⟨_, hkeys, name, hname, value, hvalue, markers, hmarkers, hfield⟩ := hfield
  exact ⟨(), hfields.checkKeys hkeys, name,
    h.orWrong_bind hfields readsScalars_nonEmptyText? hname, value,
    h.orWrong_bind hfields readsScalars_integer? hvalue, markers,
    h.readMarkers hentries hfields hmarkers, hfield⟩

/-- A constant is read alike. -/
theorem Reordering.readConstant {typeName : String} {constant : Constant}
    (h : Reordering same document document') (hentries : HasEntries document)
    (hfields : SameFields same fields fields')
    (hconstant : Catalog.readConstant document typeName fields = .ok constant) :
    Catalog.readConstant document' typeName fields' = .ok constant := by
  simp only [Catalog.readConstant, Except.bind_eq_ok_iff] at hconstant ⊢
  obtain ⟨_, hkeys, name, hname, value, hvalue, markers, hmarkers, hconstant⟩ := hconstant
  exact ⟨(), hfields.checkKeys hkeys, name,
    h.orWrong_bind hfields readsScalars_nonEmptyText? hname, value,
    h.orWrong_bind hfields readsScalars_text? hvalue, markers,
    h.readMarkers hentries hfields hmarkers, hconstant⟩

/-- **Members.** A declared type has the same members over the rearranged types, and their types
move along. -/
theorem Reordering.fillMembers {declared declared' : Catalog} {settings : Settings} {name : String}
    {entry filled : TypeEntry} (h : Reordering same document document')
    (hentries : HasEntries document) (hdeclared : declared.Rearranged declared')
    (hfields : SameFields same fields fields') (hplain : entry.IsPlain)
    (hfilled : Catalog.fillMembers document declared settings entry name fields = .ok filled) :
    Catalog.fillMembers document' declared' settings entry name fields'
      = .ok (filled.moved (declared.placeIn declared')) := by
  simp only [Catalog.fillMembers, Except.bind_eq_ok_iff, plain_eq_ok_iff] at hfilled ⊢
  obtain ⟨raw, hraw, properties, hproperties, members, ⟨rawFields, hrawFields, enumFields,
    henumFields, rawConstants, hrawConstants, constants, hconstants, hmembers⟩, hfilled⟩ := hfilled
  obtain rfl := Except.ok.inj hmembers
  obtain rfl := Except.ok.inj hfilled
  have hscope := hdeclared.movesTo entry.facts.parameters settings
  -- Only the types of properties refer to places, so fields and constants stay as they are.
  obtain ⟨raw', hraw', hproperties'⟩ := h.mappings _ hentries hfields
    (fun _ _ _ hsame hproperty => h.readProperty hentries hscope hsame hproperty)
    (readsNoEntry_readProperty _ _ _) hraw hproperties
  obtain ⟨rawFields', hrawFields', henumFields'⟩ := h.mappings id hentries hfields
    (fun _ _ _ hsame hfield => h.readField hentries hsame hfield)
    (readsNoEntry_readField _ _) hrawFields henumFields
  obtain ⟨rawConstants', hrawConstants', hconstants'⟩ := h.mappings id hentries hfields
    (fun _ _ _ hsame hconstant => h.readConstant hentries hsame hconstant)
    (readsNoEntry_readConstant _ _) hrawConstants hconstants
  rw [List.map_id] at henumFields' hconstants'
  refine ⟨raw', hraw', _, hproperties', (enumFields, constants), ⟨rawFields', hrawFields',
    enumFields, henumFields', rawConstants', hrawConstants', constants, hconstants', rfl⟩, ?_⟩
  -- A plain type is not built from types that could move.
  obtain ⟨facts, element?, arguments, _, _, _⟩ := entry
  obtain rfl : element? = none := hplain.element
  obtain rfl : arguments = [] := hplain.arguments
  rfl

end

end Catalog

end TypeExport
