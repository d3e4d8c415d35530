import TypeExport.Proofs.Settings.Slots

/-!
# Settings of a document

A document holds settings exactly if its keys are those of settings, their values have the forms
that these take, and its modules do the same for theirs.  Then it gives these values, and every
default that it does not mention; and what is written of settings gives them back.  One document
holds settings although it is none by this description: the one that is its own modules and holds
nothing else.

* `IsSettings`, `GivenBy` — documents that hold settings, and the settings that they give.
* `HoldsItself` — the document that is its own modules.
* `Settings.document` — settings as a document.
* `Settings.ofDocument_eq_ok_iff` — what is read from a document.
* `settings_given` — which settings a document gives, and a text that it is read from.
-/

namespace TypeExport

open Catalog (OnlyKeys Allows OrNull IsMapping)
open Yaml (Document Value Fields)

/-! ### Documents that hold settings -/

/-- The fields of settings, with those of their modules. -/
structure HasSettings (document : Document) (fields : Fields) : Prop where
  keys : OnlyKeys (modulesKey :: Settings.slots.map (·.key)) fields
  forms : ∀ slot ∈ Settings.slots, Allows fields slot.key slot.form
  modules : Allows fields modulesKey (IsMapping document (Fits ModulePaths.slots))

/-- The document holds settings; null holds the defaults. -/
def IsSettings (document : Document) : Prop :=
  OrNull (IsMapping document (HasSettings document)) document.root

/-- The fields of a document. -/
def givenFields (document : Document) : Fields :=
  (document.fields? document.root).getD []

/-- The fields of the modules of a document. -/
def givenModules (document : Document) : Fields :=
  ((Value.find? (givenFields document) modulesKey).bind document.fields?).getD []

/-- The settings have the values that the document gives, and the defaults where it gives none. -/
structure GivenBy (document : Document) (settings : Settings) : Prop where
  slots : Gives Settings.slots (givenFields document) {} settings
  modules : Gives ModulePaths.slots (givenModules document) {} settings.modules

/-- The document is its own modules and holds nothing else. -/
def HoldsItself (document : Document) : Prop :=
  document.fields? document.root = some [(.text modulesKey, document.root)]

/-! ### Settings as a document -/

namespace Slot

/-- The slots of a record as fields. -/
def fields {σ : Type} (slots : List (Slot σ)) (record : σ) : Fields :=
  slots.map fun slot => (.text slot.key, slot.value record)

end Slot

namespace Settings

/-- Settings as fields, with their modules in the second collection of a document. -/
def written (settings : Settings) : Fields :=
  (.text modulesKey, .collection 1) :: Slot.fields slots settings

/-- Settings as a document. -/
def document (settings : Settings) : Document where
  root := .collection 0
  collections := #[.mapping settings.written,
    .mapping (Slot.fields ModulePaths.slots settings.modules)]

/-- All slots have values that they may have: no name is empty. -/
structure IsValid (settings : Settings) : Prop where
  slots : ∀ slot ∈ slots, slot.form (slot.value settings)
  modules : ∀ slot ∈ ModulePaths.slots, slot.form (slot.value settings.modules)

end Settings

/-! ### Without the modules -/

section

variable {document : Document} {fields : Fields} {value : Value}

/-- The fields other than the modules. -/
def otherFields (fields : Fields) : Fields :=
  fields.filter fun field => field.1.text? != some modulesKey

/-- The root loses its modules. -/
theorem fields?_without_root (hfields : document.fields? document.root = some fields) :
    (document.without modulesKey document.root).fields? document.root
      = some (otherFields fields) := by
  cases hroot : document.root with
  | scalar scalar =>
    rw [hroot] at hfields
    cases hfields
  | collection number =>
    rw [hroot] at hfields
    -- A number out of range stands for no mapping, so the collection is there and is replaced.
    have hbound : number < document.collections.size := by
      by_contra hout
      have hnone : document.collections[number]? = none :=
        Array.getElem?_eq_none (Nat.le_of_not_lt hout)
      simp [Document.fields?, Document.collection?, hnone] at hfields
    simp only [Document.without, hfields]
    simp [Document.fields?, Document.collection?, hbound, otherFields]

/-- Other mappings keep their fields. -/
theorem fields?_without_of_ne (hne : value ≠ document.root) :
    (document.without modulesKey document.root).fields? value = document.fields? value := by
  unfold Document.without
  split
  · next number fields hroot hfields =>
    cases value with
    | scalar scalar => rfl
    | collection other =>
      have hother : number ≠ other := fun h => hne (h ▸ hroot.symm)
      simp [Document.fields?, Document.collection?, Array.getElem?_setIfInBounds_ne hother]
  · rfl

/-- The fields beside the paths are found by their keys. -/
theorem find?_otherFields {key : String} (hkey : key ≠ modulesKey) :
    Value.find? (otherFields fields) key = Value.find? fields key := by
  -- Having the key implies not having that of the modules, so the filter before the search is idle.
  have hboth : (fun field : Scalar × Value => decide
      ((field.1.text? != some modulesKey) = true ∧ (field.1.text? == some key) = true))
        = fun field => field.1.text? == some key := by
    funext field
    by_cases hfield : field.1.text? = some key <;> simp [hfield, hkey]
  rw [Value.find?, otherFields, List.find?_filter, hboth, Value.find?]

/-- No slot of the settings has the key of the paths. -/
theorem key_ne_modulesKey {slot : Slot Settings} (hslot : slot ∈ Settings.slots) :
    slot.key ≠ modulesKey := by
  have hall : ∀ key ∈ Settings.slots.map (·.key), key ≠ modulesKey := by decide
  exact hall _ (List.mem_map_of_mem hslot)

/-- The keys of settings are the key of the modules and the keys of the other fields. -/
theorem hasSettings_iff :
    HasSettings document fields ↔ Fits Settings.slots (otherFields fields) ∧
      Allows fields modulesKey (IsMapping document (Fits ModulePaths.slots)) := by
  have hforms : (∀ slot ∈ Settings.slots, Allows fields slot.key slot.form) ↔
      ∀ slot ∈ Settings.slots, Allows (otherFields fields) slot.key slot.form :=
    forall₂_congr fun slot hslot => by
      rw [Allows, Allows, find?_otherFields (key_ne_modulesKey hslot)]
  -- The key of the modules may stand among the fields, and is what the filter takes away.
  have hkeys : OnlyKeys (modulesKey :: Settings.slots.map (·.key)) fields ↔
      OnlyKeys (Settings.slots.map (·.key)) (otherFields fields) := by
    constructor
    · intro hkeys field hfield
      obtain ⟨hin, hother⟩ := List.mem_filter.mp hfield
      obtain ⟨key, hkey, hsame⟩ := hkeys field hin
      obtain rfl | hkey := List.mem_cons.mp hkey
      · simp [hsame, Scalar.text?] at hother
      · exact ⟨key, hkey, hsame⟩
    · intro hkeys field hfield
      by_cases hmodules : field.1.text? = some modulesKey
      · exact ⟨modulesKey, List.mem_cons_self, Yaml.text?_scalar_eq_some_iff.mp hmodules⟩
      · have hother : field ∈ otherFields fields :=
          List.mem_filter.mpr ⟨hfield, bne_iff_ne.mpr hmodules⟩
        obtain ⟨key, hkey, hsame⟩ := hkeys field hother
        exact ⟨key, List.mem_cons_of_mem _ hkey, hsame⟩
  constructor
  · rintro ⟨honly, hallowed, hmodules⟩
    exact ⟨⟨hkeys.mp honly, hforms.mp hallowed⟩, hmodules⟩
  · rintro ⟨⟨honly, hallowed⟩, hmodules⟩
    exact ⟨hkeys.mpr honly, hforms.mpr hallowed, hmodules⟩

/-- The values of slots do not depend on the modules. -/
theorem gives_otherFields {settings : Settings} (modules : ModulePaths) :
    Gives Settings.slots (otherFields fields) { modules } settings ↔
      Gives Settings.slots fields {} settings := by
  refine forall₂_congr fun slot hslot => ?_
  have hsame : ∀ slot ∈ Settings.slots,
      slot.value ({ modules } : Settings) = slot.value ({} : Settings) := by
    simp [Settings.slots, Settings.strictSlot, Settings.commentSlots, Settings.nameSlots,
      Slot.comment, Slot.name]
  rw [find?_otherFields (key_ne_modulesKey hslot), hsame slot hslot]

end

/-! ### Reading a document -/

namespace Settings

variable {document : Document} {fields : Fields} {settings : Settings}

/-- A mapping is read with its modules, and then without them. -/
theorem ofDocument_eq_ok_iff_of_fields (hdistinct : document.HasDistinctKeys)
    (hfields : document.fields? document.root = some fields) :
    ofDocument document = .ok settings ↔
      readModules (document.without modulesKey document.root) (Value.find? fields modulesKey)
          = .ok settings.modules ∧
        Fits slots (otherFields fields) ∧ Gives slots fields {} settings := by
  -- Null has no fields.
  have hnull : document.root.isNull = false := by
    rw [Bool.eq_false_iff]
    intro hnull
    rw [Catalog.isNull_iff.mp hnull] at hfields
    cases hfields
  have hothers : Fields.HasDistinctKeys (otherFields fields) := (hdistinct _ _ hfields).filter _
  simp only [ofDocument, hnull, Bool.false_eq_true, if_false, hfields, Except.bind_eq_ok_iff,
    fields?_without_root hfields, Option.getD_some, foldlM_assign_eq_ok_iff hothers,
    gives_otherFields]
  constructor
  · rintro ⟨modules, hmodules, hfits, hgives, rfl⟩
    exact ⟨hmodules, hfits, hgives⟩
  · rintro ⟨hmodules, hfits, hgives⟩
    exact ⟨_, hmodules, hfits, hgives, rfl⟩

/-- Modules other than the whole document are read if they fit. -/
theorem readModules_eq_ok_iff (hdistinct : document.HasDistinctKeys) {value? : Option Value}
    (hother : value? ≠ some document.root) {paths : ModulePaths} :
    readModules (document.without modulesKey document.root) value? = .ok paths ↔
      (∀ value, value? = some value → IsMapping document (Fits ModulePaths.slots) value) ∧
        Gives ModulePaths.slots ((value?.bind document.fields?).getD []) {} paths := by
  cases value? with
  | none =>
    have hdistinct : Fields.HasDistinctKeys [] := List.nodup_nil
    have hempty : ModulePaths.ofFields [] = .ok paths ↔ Gives ModulePaths.slots [] {} paths :=
      (ModulePaths.ofFields_eq_ok_iff hdistinct).trans (and_iff_right (fits_nil _))
    have hnone : ∀ value, none = some value → IsMapping document (Fits ModulePaths.slots) value :=
      nofun
    exact hempty.trans (and_iff_right hnone).symm
  | some value =>
    -- Only the whole document has lost a field, so these modules are read as they are given.
    have hne : value ≠ document.root := fun h => hother (congrArg some h)
    simp only [readModules, fields?_without_of_ne hne, Option.some.injEq, forall_eq', IsMapping,
      Option.bind_some]
    cases hfields : document.fields? value with
    | none => simp
    | some fields => simp [ModulePaths.ofFields_eq_ok_iff (hdistinct _ _ hfields)]

/-! ### A document that is its own modules -/

/-- Settings and their modules have no keys in common. -/
theorem eq_nil_of_fits (hmodules : Fits ModulePaths.slots fields) (hslots : Fits slots fields) :
    fields = [] := by
  have hapart : ∀ key ∈ ModulePaths.slots.map (·.key), key ∉ slots.map (·.key) := by decide
  rw [List.eq_nil_iff_forall_not_mem]
  intro field hfield
  obtain ⟨key, hkey, hsame⟩ := hmodules.keys field hfield
  obtain ⟨key', hkey', hsame'⟩ := hslots.keys field hfield
  obtain rfl := Scalar.text.inj (hsame.symm.trans hsame')
  exact hapart key hkey hkey'

/-- Where the paths are all that is given, nothing stands beside them. -/
theorem eq_singleton_of_otherFields {value : Value} (hdistinct : Fields.HasDistinctKeys fields)
    (hvalue : Value.find? fields modulesKey = some value) (hnone : otherFields fields = []) :
    fields = [(.text modulesKey, value)] := by
  have hkeys : ∀ field ∈ fields, field.1.text? = some modulesKey := by
    simpa [otherFields, List.filter_eq_nil_iff] using hnone
  have hmem := (Yaml.find?_eq_some_iff hdistinct).mp hvalue
  -- Every field has the key of the modules, which distinct keys allow just one to have.
  match fields, hkeys, hdistinct with
  | [field], _, _ => rw [List.mem_singleton.mp hmem]
  | field :: other :: _, hkeys, hdistinct =>
    have hfirst := hdistinct.find?_eq_none (hkeys field List.mem_cons_self)
    have hsecond := hkeys other (List.mem_cons_of_mem _ List.mem_cons_self)
    rw [Yaml.find?_cons_of_eq hsecond] at hfirst
    cases hfirst

/-- Settings that nothing is given for are the defaults. -/
theorem eq_default_of_gives (hslots : Gives slots [] {} settings)
    (hmodules : Gives ModulePaths.slots [] {} settings.modules) : settings = {} :=
  ext_slots hslots (ModulePaths.ext_slots hmodules)

/-- A document that is its own modules is only read if it holds nothing else. -/
theorem ofDocument_eq_ok_iff_of_own (hdistinct : document.HasDistinctKeys)
    (hfields : document.fields? document.root = some fields)
    (hown : Value.find? fields modulesKey = some document.root) :
    ofDocument document = .ok settings ↔ HoldsItself document ∧ settings = {} := by
  have hothers : Fields.HasDistinctKeys (otherFields fields) := (hdistinct _ _ hfields).filter _
  -- The document has lost its modules when they are read, and they are what is left of it.
  have hmodules : readModules (document.without modulesKey document.root) (some document.root)
      = ModulePaths.ofFields (otherFields fields) := by
    simp only [readModules, fields?_without_root hfields]
  rw [ofDocument_eq_ok_iff_of_fields hdistinct hfields, hown, hmodules,
    ModulePaths.ofFields_eq_ok_iff hothers, HoldsItself, hfields, Option.some.injEq,
    ← gives_otherFields {}]
  constructor
  -- What is left is read twice, for the modules and for the settings, which share no key.
  · rintro ⟨⟨hmodulesFit, hmodules⟩, hslotsFit, hslots⟩
    have hnone := eq_nil_of_fits hmodulesFit hslotsFit
    rw [hnone] at hmodules hslots
    exact ⟨eq_singleton_of_otherFields (hdistinct _ _ hfields) hown hnone,
      eq_default_of_gives hslots hmodules⟩
  · rintro ⟨rfl, rfl⟩
    have hnone : otherFields [(.text modulesKey, document.root)] = [] := by
      simp [otherFields, Scalar.text?]
    rw [hnone]
    exact ⟨⟨fits_nil _, gives_nil _ _⟩, fits_nil _, gives_nil _ _⟩

/-! ### All documents -/

/-- A mapping that holds itself as its paths is not of the form of settings. -/
theorem not_isSettings_of_own (hdistinct : document.HasDistinctKeys)
    (hfields : document.fields? document.root = some fields)
    (hown : Value.find? fields modulesKey = some document.root) : ¬ IsSettings document := by
  have hkey : modulesKey ∉ ModulePaths.slots.map (·.key) := by decide
  rintro (hnull | ⟨fields', hfields', hsettings⟩)
  · rw [hnull] at hfields
    cases hfields
  · obtain rfl := Option.some.inj (hfields.symm.trans hfields')
    obtain ⟨fields'', hfields'', hfits⟩ := hsettings.modules _ hown
    obtain rfl := Option.some.inj (hfields.symm.trans hfields'')
    -- The modules would allow the key under which the document holds them, which they do not.
    have hmem := (Yaml.find?_eq_some_iff (hdistinct _ _ hfields)).mp hown
    obtain ⟨key, hin, hsame⟩ := hfits.keys _ hmem
    exact hkey (Scalar.text.inj hsame ▸ hin)

/-- Without fields, the defaults are given. -/
theorem givenBy_iff_of_none (hnone : document.fields? document.root = none) :
    GivenBy document settings ↔ settings = {} := by
  have hgiven : givenFields document = [] := by rw [givenFields, hnone]; rfl
  have hmodules : givenModules document = [] := by rw [givenModules, hgiven]; rfl
  -- Neither the settings nor the modules are given any fields.
  constructor
  · rintro ⟨hslots, hslots'⟩
    rw [hgiven] at hslots
    rw [hmodules] at hslots'
    exact eq_default_of_gives hslots hslots'
  · rintro rfl
    refine ⟨?_, ?_⟩
    · rw [hgiven]
      exact gives_nil _ _
    · rw [hmodules]
      exact gives_nil _ _

/-- What a mapping gives is given by its slots: the settings by its fields, the paths by those under
their key. -/
theorem givenBy_iff_of_fields (hfields : document.fields? document.root = some fields) :
    GivenBy document settings ↔ Gives slots fields {} settings ∧
      Gives ModulePaths.slots (((Value.find? fields modulesKey).bind document.fields?).getD []) {}
        settings.modules := by
  have hgiven : givenFields document = fields := by rw [givenFields, hfields]; rfl
  rw [← hgiven]
  constructor
  · rintro ⟨hslots, hmodules⟩
    exact ⟨hslots, hmodules⟩
  · rintro ⟨hslots, hmodules⟩
    exact ⟨hslots, hmodules⟩

/-- Without fields, only null is read. -/
theorem ofDocument_eq_ok_iff_of_none (hnone : document.fields? document.root = none) :
    ofDocument document = .ok settings ↔ IsSettings document ∧ GivenBy document settings := by
  have hmapping : ¬ IsMapping document (HasSettings document) document.root := by
    rintro ⟨fields, hsome, -⟩
    cases hnone.symm.trans hsome
  rw [IsSettings, OrNull, or_iff_left hmapping, ← Catalog.isNull_iff, givenBy_iff_of_none hnone]
  -- Null gives the defaults; a scalar or a list is no mapping.
  by_cases hnull : document.root.isNull = true
  · rw [ofDocument, if_pos hnull, Except.ok.injEq, eq_comm, iff_and_self]
    exact fun _ => hnull
  · rw [ofDocument, if_neg hnull, hnone]
    refine iff_of_false ?_ fun h => hnull h.1
    intro hok
    cases hok

/-- A mapping holds settings exactly if its fields do. -/
theorem isSettings_iff (hfields : document.fields? document.root = some fields) :
    IsSettings document ↔ HasSettings document fields := by
  -- A mapping is not null, which would hold settings, too.
  have hroot : document.root ≠ .null := by
    intro hnull
    rw [hnull] at hfields
    cases hfields
  rw [IsSettings, OrNull, or_iff_right hroot]
  constructor
  · rintro ⟨fields', hfields', h⟩
    obtain rfl := Option.some.inj (hfields.symm.trans hfields')
    exact h
  · intro h
    exact ⟨fields, hfields, h⟩

/-- A mapping that is not its own modules is read exactly if it holds settings. -/
theorem ofDocument_eq_ok_iff_of_other (hdistinct : document.HasDistinctKeys)
    (hfields : document.fields? document.root = some fields)
    (hown : Value.find? fields modulesKey ≠ some document.root) :
    ofDocument document = .ok settings ↔ IsSettings document ∧ GivenBy document settings := by
  rw [ofDocument_eq_ok_iff_of_fields hdistinct hfields, readModules_eq_ok_iff hdistinct hown,
    isSettings_iff hfields, hasSettings_iff, givenBy_iff_of_fields hfields]
  constructor
  · rintro ⟨⟨hmodules, hgivesModules⟩, hfits, hgives⟩
    exact ⟨⟨hfits, hmodules⟩, hgives, hgivesModules⟩
  · rintro ⟨⟨hfits, hmodules⟩, hgives, hgivesModules⟩
    exact ⟨⟨hmodules, hgivesModules⟩, hfits, hgives⟩

/-- **Reading.** A document is read exactly if it holds settings, and gives the settings that it
holds; one that only holds itself gives the defaults. -/
theorem ofDocument_eq_ok_iff (hdistinct : document.HasDistinctKeys) :
    ofDocument document = .ok settings ↔
      (IsSettings document ∧ GivenBy document settings) ∨
        (HoldsItself document ∧ settings = {}) := by
  cases hfields : document.fields? document.root with
  | none =>
    have hself : ¬ HoldsItself document := by
      rw [HoldsItself, hfields]
      nofun
    rw [or_iff_left fun h => hself h.1, ofDocument_eq_ok_iff_of_none hfields]
  | some fields =>
    -- The two cases exclude each other: settings never hold the document that they stand in.
    by_cases hown : Value.find? fields modulesKey = some document.root
    · rw [or_iff_right fun h => not_isSettings_of_own hdistinct hfields hown h.1,
        ofDocument_eq_ok_iff_of_own hdistinct hfields hown]
    · have hself : ¬ HoldsItself document := by
        intro hself
        obtain rfl := Option.some.inj (hfields.symm.trans hself)
        exact hown (Yaml.find?_cons_of_eq rfl)
      rw [or_iff_left fun h => hself h.1, ofDocument_eq_ok_iff_of_other hdistinct hfields hown]

/-- A document that holds settings gives some. -/
theorem exists_givenBy (hdistinct : document.HasDistinctKeys) (h : IsSettings document) :
    ∃ settings, GivenBy document settings := by
  cases hfields : document.fields? document.root with
  | none => exact ⟨{}, (givenBy_iff_of_none hfields).mpr rfl⟩
  | some fields =>
    obtain ⟨hfits, hallowed⟩ := hasSettings_iff.mp ((isSettings_iff hfields).mp h)
    -- The modules have a mapping of their own; the other fields are set on top of what it gives.
    obtain ⟨modules, hmodules⟩ : ∃ modules, Gives ModulePaths.slots
        (((Value.find? fields modulesKey).bind document.fields?).getD []) {} modules := by
      cases hvalue : Value.find? fields modulesKey with
      | none => exact ⟨{}, gives_nil _ _⟩
      | some value =>
        obtain ⟨fields', hfields', hfits'⟩ := hallowed value hvalue
        have hdistinct' := hdistinct _ _ hfields'
        rw [Option.bind_some, hfields', Option.getD_some]
        obtain ⟨modules, hmodules⟩ := ModulePaths.assigns.exists_foldlM_of_fits
          ModulePaths.nodup_slots hdistinct' hfits' {}
        exact ⟨modules, ModulePaths.assigns.gives hdistinct' hmodules⟩
    have hothers : Fields.HasDistinctKeys (otherFields fields) := (hdistinct _ _ hfields).filter _
    obtain ⟨settings, hsettings⟩ := assigns.exists_foldlM_of_fits nodup_slots hothers hfits
      { modules }
    obtain ⟨-, hgives, rfl⟩ := (foldlM_assign_eq_ok_iff hothers).mp hsettings
    exact ⟨settings, (givenBy_iff_of_fields hfields).mpr
      ⟨(gives_otherFields _).mp hgives, hmodules⟩⟩

/-- Settings are read exactly from documents of their form and from mappings that hold nothing but
themselves. -/
theorem exists_ofDocument_iff (hdistinct : document.HasDistinctKeys) :
    (∃ settings, ofDocument document = .ok settings) ↔
      IsSettings document ∨ HoldsItself document := by
  simp only [ofDocument_eq_ok_iff hdistinct]
  constructor
  · rintro ⟨settings, ⟨h, -⟩ | ⟨h, -⟩⟩
    · exact .inl h
    · exact .inr h
  · rintro (h | h)
    · obtain ⟨settings, hgiven⟩ := exists_givenBy hdistinct h
      exact ⟨settings, .inl ⟨h, hgiven⟩⟩
    · exact ⟨{}, .inr ⟨h, rfl⟩⟩

/-! ### Reading back -/

end Settings

section

variable {σ : Type} {slots : List (Slot σ)}

/-- The written fields have the keys of the slots. -/
theorem keys_fields (slots : List (Slot σ)) (record : σ) :
    (Slot.fields slots record).filterMap (·.1.text?) = slots.map (·.key) := by
  simp [Slot.fields, List.filterMap_map, Scalar.text?]

/-- A written field is found by the key of its slot. -/
theorem find?_fields (hkeys : (slots.map (·.key)).Nodup) (record : σ) {slot : Slot σ}
    (hslot : slot ∈ slots) :
    Value.find? (Slot.fields slots record) slot.key = some (slot.value record) := by
  have hdistinct : Fields.HasDistinctKeys (Slot.fields slots record) := by
    rwa [Fields.HasDistinctKeys, keys_fields]
  exact (Yaml.find?_eq_some_iff hdistinct).mpr (List.mem_map_of_mem hslot)

/-- The slots of a record fit if they have values that they may have. -/
theorem fits_fields_iff (hkeys : (slots.map (·.key)).Nodup) (record : σ) :
    Fits slots (Slot.fields slots record) ↔ ∀ slot ∈ slots, slot.form (slot.value record) := by
  constructor
  · intro h slot hslot
    exact h.forms slot hslot _ (find?_fields hkeys record hslot)
  · intro h
    refine ⟨fun field hfield => ?_, fun slot hslot value hvalue => ?_⟩
    · obtain ⟨slot, hslot, rfl⟩ := List.mem_map.mp hfield
      exact ⟨slot.key, List.mem_map_of_mem hslot, rfl⟩
    · obtain rfl := Option.some.inj ((find?_fields hkeys record hslot).symm.trans hvalue)
      exact h slot hslot

/-- The written fields give the record back, whatever stood there before. -/
theorem gives_fields (hkeys : (slots.map (·.key)).Nodup) (record result : σ) :
    Gives slots (Slot.fields slots result) record result := fun slot hslot => by
  rw [find?_fields hkeys result hslot, Option.getD_some]

end

namespace Settings

variable (settings : Settings)

/-- Beside the paths, the settings write the fields of their own slots. -/
theorem otherFields_written : otherFields settings.written = Slot.fields slots settings := by
  have hothers : ∀ field ∈ Slot.fields slots settings,
      (field.1.text? != some modulesKey) = true := by
    intro field hfield
    obtain ⟨slot, hslot, rfl⟩ := List.mem_map.mp hfield
    simp [Scalar.text?, key_ne_modulesKey hslot]
  rw [otherFields, written, List.filter_cons_of_neg (by simp [Scalar.text?]),
    List.filter_eq_self.mpr hothers]

/-- The document that settings write has distinct keys. -/
theorem hasDistinctKeys_document : settings.document.HasDistinctKeys := by
  intro value fields hfields
  have hkeys : (modulesKey :: slots.map (·.key)).Nodup := by decide
  -- The document has two mappings: the settings, and their modules.
  match value, hfields with
  | .collection 0, hfields =>
    obtain rfl := Option.some.inj hfields
    have hwritten : settings.written.filterMap (·.1.text?) = modulesKey :: slots.map (·.key) := by
      rw [← keys_fields slots settings]
      rfl
    rwa [Fields.HasDistinctKeys, hwritten]
  | .collection 1, hfields =>
    obtain rfl := Option.some.inj hfields
    rw [Fields.HasDistinctKeys, keys_fields]
    exact ModulePaths.nodup_slots

/-- **Reading back.** Settings as a document are read back exactly if no slot has a value that it
may not have. -/
theorem ofDocument_document_iff :
    ofDocument settings.document = .ok settings ↔ settings.IsValid := by
  have hfields : settings.document.fields? settings.document.root = some settings.written := rfl
  have hmodules : Value.find? settings.written modulesKey = some (.collection 1) :=
    Yaml.find?_cons_of_eq rfl
  have hmoduleFields : settings.document.fields? (.collection 1)
      = some (Slot.fields ModulePaths.slots settings.modules) := rfl
  have hother : Value.find? settings.written modulesKey ≠ some settings.document.root := by
    rw [hmodules]
    nofun
  have hgiven : GivenBy settings.document settings := by
    rw [givenBy_iff_of_fields hfields, ← gives_otherFields {}, otherFields_written, hmodules,
      Option.bind_some, hmoduleFields]
    exact ⟨gives_fields nodup_slots _ _, gives_fields ModulePaths.nodup_slots _ _⟩
  have hallowed : Allows settings.written modulesKey
      (IsMapping settings.document (Fits ModulePaths.slots)) ↔
        Fits ModulePaths.slots (Slot.fields ModulePaths.slots settings.modules) := by
    simp only [Allows, hmodules, Option.some.injEq, forall_eq', IsMapping, hmoduleFields,
      exists_eq_left']
  -- What is written gives the settings in any case; only the forms of the values are left.
  rw [ofDocument_eq_ok_iff_of_other settings.hasDistinctKeys_document hfields hother,
    and_iff_left hgiven, isSettings_iff hfields, hasSettings_iff, otherFields_written, hallowed,
    fits_fields_iff nodup_slots, fits_fields_iff ModulePaths.nodup_slots]
  constructor
  · rintro ⟨hslots, hmodules⟩
    exact ⟨hslots, hmodules⟩
  · rintro ⟨hslots, hmodules⟩
    exact ⟨hslots, hmodules⟩

end Settings

/-! ### Which settings a document gives -/

/-- A document that gives no settings is a problem. -/
theorem Settings.exists_ofDocument_error_iff {document : Document}
    (hdistinct : document.HasDistinctKeys) :
    (∃ problem, Settings.ofDocument document = .error problem) ↔
      ¬ IsSettings document ∧ ¬ HoldsItself document := by
  rw [← not_or, ← Settings.exists_ofDocument_iff hdistinct]
  cases Settings.ofDocument document with
  | ok settings => exact iff_of_false nofun (not_not_intro ⟨settings, rfl⟩)
  | error problem =>
    refine iff_of_true ⟨problem, rfl⟩ ?_
    rintro ⟨settings, hok⟩
    cases hok

/-- The settings of a text are those of its document, and so are its problems. -/
theorem Settings.read_of_document {standIn : Char} {label text : String} {document : Document}
    (hread : Document.read standIn text = .ok document) :
    Settings.read label text standIn
      = (Settings.ofDocument document).mapError (.problem label) := by
  rw [Settings.read, hread]

/-- **Settings.** A document whose keys are distinct gives settings exactly if its keys are those of
settings and its values have their forms: those that it mentions, and the defaults of all others.
Every other document is a problem, except for the one that is its own modules and holds nothing
else: it gives the defaults.  Settings that are written as a document are read back.  The keys of a
document that is read from a text are distinct, so a text gives what its document gives. -/
theorem settings_given (document : Document) :
    (document.HasDistinctKeys →
      (∀ settings, Settings.ofDocument document = .ok settings ↔
        (IsSettings document ∧ GivenBy document settings) ∨
          (HoldsItself document ∧ settings = {})) ∧
      ((∃ problem, Settings.ofDocument document = .error problem) ↔
        ¬ IsSettings document ∧ ¬ HoldsItself document)) ∧
      (∀ settings : Settings,
        Settings.ofDocument settings.document = .ok settings ↔ settings.IsValid) ∧
      ∀ standIn label text, Document.read standIn text = .ok document →
        (∀ settings, Settings.read label text standIn = .ok settings ↔
          (IsSettings document ∧ GivenBy document settings) ∨
            (HoldsItself document ∧ settings = {})) ∧
        ((∃ problem, Settings.read label text standIn = .error (.problem label problem)) ↔
          ¬ IsSettings document ∧ ¬ HoldsItself document) := by
  refine ⟨fun hdistinct => ⟨fun _ => Settings.ofDocument_eq_ok_iff hdistinct,
    Settings.exists_ofDocument_error_iff hdistinct⟩, Settings.ofDocument_document_iff, ?_⟩
  intro standIn label text hread
  have hdistinct := Yaml.hasDistinctKeys_of_read hread
  rw [Settings.read_of_document hread]
  refine ⟨fun settings => ?_, ?_⟩
  · rw [Except.mapError_eq_ok_iff]
    exact Settings.ofDocument_eq_ok_iff hdistinct
  · rw [← Settings.exists_ofDocument_error_iff hdistinct]
    -- The label of the text is all that is added to a problem.
    cases Settings.ofDocument document with
    | ok settings => exact iff_of_false nofun nofun
    | error problem => exact iff_of_true ⟨problem, rfl⟩ ⟨problem, rfl⟩

/-- Settings with modules, in a text that also has a default and an absent comment. -/
def acmeText : String :=
  "typescript: \x7b box-import: '@Acme/box' \x7d\nstrict: yes\ncopyright-comment: ~\n"
    ++ "enums-namespace: Acme.Enums\n"

/-- Settings of which one is a switch, one a text and one the path of a module. -/
def acme : Settings where
  strict := true
  enumsSpace := "Acme.Enums"
  modules := { box := "@Acme/box" }

/-- A text gives settings with values of their own, which are written back to a document that gives
them again. -/
theorem settings_given_acme : ∃ document, Document.read Text.standIn acmeText = .ok document ∧
    document.HasDistinctKeys ∧ IsSettings document ∧ GivenBy document acme ∧
    Settings.ofDocument document = .ok acme ∧
    (¬ ∃ problem, Settings.read "<string>" acmeText = .error (.problem "<string>" problem)) ∧
    acme.IsValid ∧ Settings.ofDocument acme.document = .ok acme := by
  have hvalue : (Settings.read "<string>" acmeText).toOption = some acme := by decide +kernel
  have hok : Settings.read "<string>" acmeText = .ok acme := Except.mem_toOption_iff.mp hvalue
  obtain ⟨document, hread⟩ : ∃ document, Document.read Text.standIn acmeText = .ok document := by
    cases hread : Document.read Text.standIn acmeText with
    | error fault =>
      rw [Settings.read, hread] at hok
      cases fault <;> cases hok
    | ok document => exact ⟨document, rfl⟩
  -- That its keys are distinct comes from its being read, not from looking at it.
  have hdistinct := Yaml.hasDistinctKeys_of_read hread
  obtain ⟨hdocument, hback, htext⟩ := settings_given document
  obtain ⟨hgiven, hproblem⟩ := htext _ "<string>" acmeText hread
  obtain ⟨hsettings, hgives⟩ | ⟨-, hdefault⟩ := (hgiven acme).mp hok
  -- The text mentions other keys than that of the modules, so the first case is the one.
  · have hvalid : acme.IsValid := by
      constructor <;> simp [Settings.slots, Settings.strictSlot, Settings.commentSlots,
        Settings.nameSlots, ModulePaths.slots, Slot.comment, Slot.name, Slot.commentValue, acme,
        Catalog.IsName, Catalog.IsBoolean, OrNull]
    exact ⟨document, hread, hdistinct, hsettings, hgives,
      ((hdocument hdistinct).1 acme).mpr (.inl ⟨hsettings, hgives⟩),
      fun h => (hproblem.mp h).1 hsettings, hvalid, (hback acme).mpr hvalid⟩
  · exact absurd hdefault (by decide)

/-- The document that is its own modules. -/
def ownModules : Document where
  root := .collection 0
  collections := #[.mapping [(.text modulesKey, .collection 0)]]

/-- Documents hold floating-point numbers, so that two are equal is not decided; this is. -/
def isOwnModules : Document → Bool
  | ⟨.collection 0, ⟨[.mapping [(.text "typescript", .collection 0)]]⟩⟩ => true
  | _ => false

/-- The text of a mapping under an anchor that its only field refers to is the mapping that holds
itself. -/
theorem read_ownModules :
    Document.read Text.standIn "&own \x7b typescript: *own \x7d" = .ok ownModules := by
  have h : (Document.read Text.standIn "&own \x7b typescript: *own \x7d").toOption.any
      isOwnModules = true := by
    decide +kernel
  obtain ⟨document, hread, hdocument⟩ := Except.exists_of_any h
  rw [hread]
  unfold isOwnModules at hdocument
  split at hdocument
  · rfl
  · cases hdocument

/-- The key of the modules is none of their own keys, but it is not looked at there. -/
theorem ownModules_read :
    Document.read Text.standIn "&own \x7b typescript: *own \x7d" = .ok ownModules ∧
      ¬ IsSettings ownModules ∧
      Settings.read "<string>" "&own \x7b typescript: *own \x7d" = .ok {} := by
  refine ⟨read_ownModules, ?_, ?_⟩
  · have hdistinct := Yaml.hasDistinctKeys_of_read read_ownModules
    exact Settings.not_isSettings_of_own hdistinct rfl (Yaml.find?_cons_of_eq rfl)
  · rw [Settings.read_of_document read_ownModules]
    rfl

end TypeExport
