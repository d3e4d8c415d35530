import TypeExport.Proofs.Catalog.Schema
import TypeExport.Proofs.Yaml.DistinctKeys
import TypeExport.Settings.Read

/-!
# Slots of records

Settings are read field by field: each key stands for a slot of the record, which takes a certain
form of values.  Whatever the fields and their order, a slot has in the end the value of its field,
or the value it had before if there is none.

* `Slot`, `Slot.key` — a slot, and its key: the words of its name with dashes between them.
* `Fits`, `Gives` — fields that the slots of a record take, and the record that they give.
* `Assigns` — a step sets the slot of a key, and no other.
* `Assigns.exists_foldlM_iff`, `Assigns.gives` — all steps together.
* `Settings.slots`, `ModulePaths.slots` — the slots of settings.
* `Settings.assigns`, `ModulePaths.assigns` — how one field of settings is read.
-/

namespace TypeExport

open Catalog (OnlyKeys Allows IsText IsName IsBoolean OrNull)
open Yaml (Value Fields)

/-! ### Slots -/

/-- A slot of a record: the words of its name, which values it takes, and its value. -/
structure Slot (σ : Type) where
  words : List String
  form : Value → Prop
  value : σ → Value

namespace Slot

variable {σ : Type}

/-- The key of a slot: its words with dashes between them. -/
def key (slot : Slot σ) : String :=
  "-".intercalate slot.words

/-- A slot that holds a name. -/
def name (words : List String) (get : σ → String) : Slot σ where
  words := words
  form := IsName
  value := fun record => .scalar (.text (get record))

/-- A comment as a value; null stands for none. -/
def commentValue : Option String → Value
  | none => .null
  | some text => .scalar (.text text)

/-- A comment and the absence of one are written differently. -/
theorem commentValue_injective : Function.Injective commentValue := by
  rintro (_ | text) (_ | text') h
  · rfl
  · cases h
  · cases h
  · rw [Scalar.text.inj (Value.scalar.inj h)]

/-- A slot that holds a comment or nothing. -/
def comment (words : List String) (get : σ → Option String) : Slot σ where
  words := words
  form := OrNull IsText
  value := fun record => commentValue (get record)

end Slot

section

variable {σ ε : Type} {slots : List (Slot σ)} {fields : Fields} {record result : σ}

/-- The slots take the fields: they have no keys but those of slots, and the forms of these. -/
structure Fits (slots : List (Slot σ)) (fields : Fields) : Prop where
  keys : OnlyKeys (slots.map (·.key)) fields
  forms : ∀ slot ∈ slots, Allows fields slot.key slot.form

/-- The slots have the values of the fields, and those of another record where there is none. -/
def Gives (slots : List (Slot σ)) (fields : Fields) (record result : σ) : Prop :=
  ∀ slot ∈ slots, slot.value result = (Value.find? fields slot.key).getD (slot.value record)

/-- No fields fit, and give the record that there was. -/
theorem fits_nil (slots : List (Slot σ)) : Fits slots [] where
  keys := nofun
  forms := nofun

/-- Without fields, slots give the record as it was. -/
theorem gives_nil (slots : List (Slot σ)) (record : σ) : Gives slots [] record record :=
  fun _ _ => rfl

/-- Among fields with distinct keys, those that slots take are taken one by one. -/
theorem fits_iff (hkeys : (slots.map (·.key)).Nodup) (hdistinct : Fields.HasDistinctKeys fields) :
    Fits slots fields ↔
      ∀ field ∈ fields, ∃ slot ∈ slots, field.1 = .text slot.key ∧ slot.form field.2 := by
  constructor
  · rintro ⟨honly, hforms⟩ ⟨scalar, value⟩ hfield
    obtain ⟨key, hkey, rfl⟩ := honly _ hfield
    obtain ⟨slot, hslot, rfl⟩ := List.mem_map.mp hkey
    have hvalue := (Yaml.find?_eq_some_iff hdistinct).mpr hfield
    exact ⟨slot, hslot, rfl, hforms slot hslot value hvalue⟩
  · intro htaken
    refine ⟨fun field hfield => ?_, fun slot hslot value hvalue => ?_⟩
    · obtain ⟨slot, hslot, hkey, -⟩ := htaken field hfield
      exact ⟨slot.key, List.mem_map_of_mem hslot, hkey⟩
    · have hfield := (Yaml.find?_eq_some_iff hdistinct).mp hvalue
      obtain ⟨other, hother, hkey, hform⟩ := htaken _ hfield
      -- Two slots with the key of the field would be one.
      obtain rfl : slot = other :=
        List.inj_on_of_nodup_map hkeys hslot hother (Scalar.text.inj hkey)
      exact hform

/-- A step takes the field of a slot and sets it, and no other slot. -/
structure Assigns (slots : List (Slot σ)) (assign : σ → Scalar × Value → Except ε σ) : Prop where
  accepts : ∀ record field, (∃ result, assign record field = .ok result) ↔
    ∃ slot ∈ slots, field.1 = .text slot.key ∧ slot.form field.2
  sets : ∀ record field result, assign record field = .ok result → ∀ slot ∈ slots,
    slot.value result = if field.1.text? = some slot.key then field.2 else slot.value record

variable {assign : σ → Scalar × Value → Except ε σ}

/-- All steps succeed exactly if slots take all fields. -/
theorem Assigns.exists_foldlM_iff (h : Assigns slots assign) (record : σ) :
    (∃ result, fields.foldlM assign record = .ok result) ↔
      ∀ field ∈ fields, ∃ slot ∈ slots, field.1 = .text slot.key ∧ slot.form field.2 := by
  induction fields generalizing record with
  | nil => exact iff_of_true ⟨record, rfl⟩ nofun
  | cons field fields ih =>
    -- Whether a step succeeds does not depend on the record, so the steps do not wait for each
    -- other.
    simp only [List.foldlM_cons, Except.bind_eq_ok_iff, List.forall_mem_cons,
      ← h.accepts record field]
    constructor
    · rintro ⟨result, middle, hmiddle, hresult⟩
      exact ⟨⟨middle, hmiddle⟩, (ih middle).mp ⟨result, hresult⟩⟩
    · rintro ⟨⟨middle, hmiddle⟩, hothers⟩
      obtain ⟨result, hresult⟩ := (ih middle).mpr hothers
      exact ⟨result, middle, hmiddle, hresult⟩

/-- Fields that fit the slots are assigned to the end. -/
theorem Assigns.exists_foldlM_of_fits (h : Assigns slots assign)
    (hkeys : (slots.map (·.key)).Nodup) (hdistinct : Fields.HasDistinctKeys fields)
    (hfits : Fits slots fields) (record : σ) : ∃ result, fields.foldlM assign record = .ok result :=
  (h.exists_foldlM_iff record).mpr ((fits_iff hkeys hdistinct).mp hfits)

/-- **Reading** fields gives a record with their values. -/
theorem Assigns.gives (h : Assigns slots assign) (hdistinct : Fields.HasDistinctKeys fields)
    (hrun : fields.foldlM assign record = .ok result) : Gives slots fields record result := by
  intro slot hslot
  -- The induction is on the fields, from the first one on: the last that sets a slot decides.
  induction fields generalizing record with
  | nil =>
    obtain rfl : record = result := Except.ok.inj hrun
    rfl
  | cons field fields ih =>
    rw [List.foldlM_cons, Except.bind_eq_ok_iff] at hrun
    obtain ⟨middle, hmiddle, hrun⟩ := hrun
    rw [ih hdistinct.of_cons hrun, h.sets record field middle hmiddle slot hslot]
    -- No later field sets the slot again, since none has the same key.
    by_cases hkey : field.1.text? = some slot.key
    · rw [hdistinct.find?_eq_none hkey, Yaml.find?_cons_of_eq hkey, if_pos hkey, Option.getD_none,
        Option.getD_some]
    · rw [Yaml.find?_cons_of_ne hkey, if_neg hkey]

/-- All steps together take the fields that fit, and set the slots to what these give; the rest of
the record stays. -/
theorem Assigns.foldlM_eq_ok_iff {β : Type} (h : Assigns slots assign)
    (hkeys : (slots.map (·.key)).Nodup) (hdistinct : Fields.HasDistinctKeys fields) (rest : σ → β)
    (hrest : ∀ record field result, assign record field = .ok result → rest result = rest record)
    (hext : ∀ record result, (∀ slot ∈ slots, slot.value record = slot.value result) →
      rest record = rest result → record = result) :
    fields.foldlM assign record = .ok result ↔
      Fits slots fields ∧ Gives slots fields record result ∧ rest result = rest record := by
  have hkept : ∀ result, fields.foldlM assign record = .ok result → rest result = rest record := by
    -- The rest stays whether or not a key stands twice.
    clear hdistinct
    induction fields generalizing record with
    | nil =>
      intro result hrun
      obtain rfl : record = result := Except.ok.inj hrun
      rfl
    | cons field fields ih =>
      intro result hrun
      rw [List.foldlM_cons, Except.bind_eq_ok_iff] at hrun
      obtain ⟨middle, hmiddle, hrun⟩ := hrun
      rw [ih result hrun, hrest record field middle hmiddle]
  rw [fits_iff hkeys hdistinct, ← h.exists_foldlM_iff record]
  constructor
  · intro hrun
    exact ⟨⟨result, hrun⟩, h.gives hdistinct hrun, hkept result hrun⟩
  -- The record that the steps end with has the same slots and the same rest, so it is the one.
  · rintro ⟨⟨other, hother⟩, hgives, hsame⟩
    have hgiven := h.gives hdistinct hother
    rw [hother, hext other result (fun slot hslot => ?_) ((hkept other hother).trans hsame.symm)]
    rw [hgives slot hslot, hgiven slot hslot]

end

/-! ### Tables -/

section

variable {σ α : Type} {all slots : List (Slot σ)} {table : List (String × (σ → α → σ))}
  {read : Value → Option α}

/-- An entry of a table has the key of the field, and sets what is read from its value. -/
def SetsBy (table : List (String × (σ → α → σ))) (read : Value → Option α) (record : σ)
    (field : Scalar × Value) (result : σ) : Prop :=
  ∃ entry ∈ table, field.1 = .text entry.1 ∧
    ∃ item, read field.2 = some item ∧ entry.2 record item = result

/-- The setters of a table set the slots whose keys they have to what is read from a value. -/
structure Describes (all slots : List (Slot σ)) (read : Value → Option α)
    (table : List (String × (σ → α → σ))) : Prop where
  keys : table.map (·.1) = slots.map (·.key)
  forms : ∀ slot ∈ slots, Catalog.Reads read slot.form
  sets : ∀ entry ∈ table, ∀ record value item, read value = some item → ∀ slot ∈ all,
    slot.value (entry.2 record item) = if entry.1 = slot.key then value else slot.value record

/-- The slots of a table are described by what its setters do with the items that values stand
for. -/
theorem Describes.of_value {toValue : α → Value}
    (hvalue : ∀ value item, read value = some item → value = toValue item)
    (hkeys : table.map (·.1) = slots.map (·.key))
    (hforms : ∀ slot ∈ slots, Catalog.Reads read slot.form)
    (hsets : ∀ entry ∈ table, ∀ record item, ∀ slot ∈ all, slot.value (entry.2 record item)
      = if entry.1 = slot.key then toValue item else slot.value record) :
    Describes all slots read table where
  keys := hkeys
  forms := hforms
  sets := by
    intro entry hentry record value item hitem slot hslot
    rw [hsets entry hentry record item slot hslot, hvalue value item hitem]

/-- A table takes the fields of its slots. -/
theorem Describes.exists_setsBy_iff (h : Describes all slots read table) {record : σ}
    {field : Scalar × Value} :
    (∃ result, SetsBy table read record field result) ↔
      ∃ slot ∈ slots, field.1 = .text slot.key ∧ slot.form field.2 := by
  constructor
  · rintro ⟨result, entry, hentry, hkey, item, hitem, -⟩
    -- The keys of the table are those of the slots, so each entry has its slot and each slot its
    -- entry.
    have hmem : entry.1 ∈ slots.map (·.key) := h.keys ▸ List.mem_map_of_mem hentry
    obtain ⟨slot, hslot, hsame⟩ := List.mem_map.mp hmem
    exact ⟨slot, hslot, hsame ▸ hkey, (h.forms slot hslot field.2).mp ⟨item, hitem⟩⟩
  · rintro ⟨slot, hslot, hkey, hform⟩
    have hmem : slot.key ∈ table.map (·.1) := h.keys ▸ List.mem_map_of_mem hslot
    obtain ⟨entry, hentry, hsame⟩ := List.mem_map.mp hmem
    obtain ⟨item, hitem⟩ := (h.forms slot hslot field.2).mpr hform
    exact ⟨entry.2 record item, entry, hentry, hsame ▸ hkey, item, hitem, rfl⟩

/-- A table sets the slot of a key, and no other. -/
theorem Describes.value_of_setsBy (h : Describes all slots read table) {record result : σ}
    {field : Scalar × Value} (hsets : SetsBy table read record field result) {slot : Slot σ}
    (hslot : slot ∈ all) :
    slot.value result = if field.1.text? = some slot.key then field.2 else slot.value record := by
  obtain ⟨entry, hentry, hkey, item, hitem, rfl⟩ := hsets
  rw [h.sets entry hentry record field.2 item hitem slot hslot, hkey]
  simp [Scalar.text?]

/-- Where keys are distinct, a key finds its entry. -/
theorem lookup_eq_some_iff {table : List (String × α)} {key : String} {item : α}
    (hkeys : (table.map (·.1)).Nodup) : table.lookup key = some item ↔ (key, item) ∈ table := by
  induction table with
  | nil => exact ⟨nofun, nofun⟩
  | cons entry table ih =>
    obtain ⟨other, value⟩ := entry
    rw [List.map_cons, List.nodup_cons] at hkeys
    by_cases hkey : key = other
    · subst hkey
      have hnone : (key, item) ∉ table := fun hin =>
        hkeys.1 (List.mem_map.mpr ⟨_, hin, rfl⟩)
      rw [List.lookup_cons_self, List.mem_cons, or_iff_left hnone]
      simp [eq_comm]
    · rw [List.lookup_cons, beq_false_of_ne hkey, List.mem_cons]
      simp [ih hkeys.2, hkey]

end

/-- A name is read from its text. -/
theorem eq_of_nonEmptyText? {value : Value} {text : String}
    (h : value.nonEmptyText? = some text) : value = .scalar (.text text) := by
  rw [Value.nonEmptyText?, Option.filter_eq_some_iff, Catalog.text?_eq_some_iff] at h
  exact h.1

namespace ModulePaths

/-- The slots of the modules of generated TypeScript. -/
def slots : List (Slot ModulePaths) := [
  .name ["enums", "import", "root"] (·.enumsRoot),
  .name ["view", "models", "import", "root"] (·.viewModelsRoot),
  .name ["identifier", "import"] (·.identifier),
  .name ["reference", "bag", "import"] (·.referenceBag),
  .name ["box", "import"] (·.box)]

/-- No two slots of the paths have one key. -/
theorem nodup_slots : (slots.map (·.key)).Nodup := by decide

/-- The slots describe the fields of the paths that are module paths. -/
theorem describes_moduleFields : Describes slots slots Value.nonEmptyText? moduleFields :=
  .of_value (fun _ _ => eq_of_nonEmptyText?) (by decide)
    (by simp [slots, Slot.name, Catalog.reads_name])
    (by simp [moduleFields, slots, Slot.name, Slot.key])

/-- A field is set by its entry in the table. -/
theorem assign_eq_ok_iff {paths result : ModulePaths} {key : Scalar} {value : Value} :
    paths.assign key value = .ok result ↔
      SetsBy moduleFields Value.nonEmptyText? paths (key, value) result := by
  have hkeys : (moduleFields.map (·.1)).Nodup := by decide
  constructor
  · intro h
    unfold assign at h
    split at h
    · cases h
    · next set hset =>
      split at h
      · cases h
      · next text htext =>
        obtain ⟨name, hname, hlookup⟩ := Option.bind_eq_some_iff.mp hset
        exact ⟨(name, set), (lookup_eq_some_iff hkeys).mp hlookup,
          Yaml.text?_scalar_eq_some_iff.mp hname, text, htext, Except.ok.inj h⟩
  -- The key finds the entry of the table again, as no two entries share one.
  · rintro ⟨⟨name, set⟩, hentry, rfl, text, htext, rfl⟩
    have hlookup := (lookup_eq_some_iff hkeys).mpr hentry
    simp only [assign, Scalar.text?, Option.bind_some, hlookup, htext]

/-- The slots say exactly what assigning a field of the paths does. -/
theorem assigns : Assigns slots fun paths field => paths.assign field.1 field.2 where
  accepts := by
    intro paths field
    simp only [assign_eq_ok_iff]
    exact describes_moduleFields.exists_setsBy_iff
  sets := fun _ _ _ hassign _ hslot =>
    describes_moduleFields.value_of_setsBy (assign_eq_ok_iff.mp hassign) hslot

/-- Modules with the same values in all slots are the same. -/
theorem ext_slots {paths paths' : ModulePaths}
    (h : ∀ slot ∈ slots, slot.value paths = slot.value paths') : paths = paths' := by
  simp only [slots, Slot.name, List.forall_mem_cons, Value.scalar.injEq, Scalar.text.injEq] at h
  cases paths
  cases paths'
  simp_all

/-- **Modules** are read from fields that fit, and have the values of these. -/
theorem ofFields_eq_ok_iff {fields : Fields} {paths : ModulePaths}
    (hdistinct : Fields.HasDistinctKeys fields) :
    ofFields fields = .ok paths ↔ Fits slots fields ∧ Gives slots fields {} paths := by
  rw [ofFields, assigns.foldlM_eq_ok_iff nodup_slots hdistinct (fun _ => ())
    (fun _ _ _ _ => rfl) (fun _ _ hsame _ => ext_slots hsame)]
  simp

end ModulePaths

namespace Settings

/-- The slots of settings that hold names. -/
def nameSlots : List (Slot Settings) := [
  .name ["enums", "namespace"] (·.enumsSpace),
  .name ["view", "models", "namespace"] (·.viewModelsSpace),
  .name ["entity", "interface"] (·.entityInterface),
  .name ["enum", "domain", "attribute"] (·.domainMarker),
  .name ["box", "definition"] (·.boxDefinition),
  .name ["utility", "namespace"] (·.utilitySpace),
  .name ["reference", "bag", "name"] (·.referenceBag),
  .name ["entity", "bag", "base"] (·.entityBagBase)]

/-- The slots of settings that hold comments. -/
def commentSlots : List (Slot Settings) := [
  .comment ["auto", "generated", "comment"] (·.generatedComment?),
  .comment ["copyright", "comment"] (·.copyrightComment?)]

/-- The slot of the failure policy. -/
def strictSlot : Slot Settings where
  words := ["strict"]
  form := IsBoolean
  value := fun settings => .scalar (.bool settings.strict)

/-- The slots of settings, but for the modules of generated TypeScript. -/
def slots : List (Slot Settings) :=
  strictSlot :: commentSlots ++ nameSlots

/-- No two slots of the settings have one key. -/
theorem nodup_slots : (slots.map (·.key)).Nodup := by decide

/-- The setter of the failure policy with its key. -/
def strictFields : List (String × (Settings → Bool → Settings)) :=
  [(strictKey, fun settings strict => { settings with strict })]

/-- A comment is read from its text or null. -/
theorem comment?_eq_some_iff {value : Value} {comment : Option String} :
    comment? value = some comment ↔ value = Slot.commentValue comment := by
  unfold comment?
  -- Null and a text are tested in this order, and nothing is both.
  cases comment with
  | none =>
    rw [Slot.commentValue, ← Catalog.isNull_iff]
    split <;> simp [*]
  | some text =>
    rw [Slot.commentValue, ← Catalog.text?_eq_some_iff]
    split
    · next hnull =>
      rw [Catalog.isNull_iff.mp hnull]
      exact iff_of_false nofun nofun
    · simp

/-- A comment is read from a text and from null. -/
theorem reads_comment : Catalog.Reads comment? (OrNull IsText) := by
  intro value
  simp only [comment?_eq_some_iff, OrNull, IsText]
  constructor
  · rintro ⟨_ | text, rfl⟩
    · exact .inl rfl
    · exact .inr ⟨text, rfl⟩
  · rintro (rfl | ⟨text, rfl⟩)
    · exact ⟨none, rfl⟩
    · exact ⟨some text, rfl⟩

/-- A truth value is read only from itself. -/
theorem eq_of_boolean? {value : Value} {truth : Bool} (h : value.boolean? = some truth) :
    value = .scalar (.bool truth) := by
  unfold Value.boolean? at h
  split at h
  · rw [Option.some.inj h]
  · cases h

/-- The slot of strictness describes its field. -/
theorem describes_strictFields : Describes slots [strictSlot] Value.boolean? strictFields :=
  .of_value (fun _ _ => eq_of_boolean?) (by decide) (by simp [strictSlot, Catalog.reads_boolean])
    (by simp [strictFields, strictKey, slots, strictSlot, commentSlots, nameSlots, Slot.comment,
      Slot.name, Slot.key])

/-- The slots of comments describe their fields. -/
theorem describes_commentFields : Describes slots commentSlots comment? commentFields :=
  .of_value (fun _ _ => comment?_eq_some_iff.mp) (by decide)
    (by simp [commentSlots, Slot.comment, reads_comment])
    (by simp [commentFields, slots, strictSlot, commentSlots, nameSlots, Slot.comment, Slot.name,
      Slot.key])

/-- The slots of names describe their fields. -/
theorem describes_textFields : Describes slots nameSlots Value.nonEmptyText? textFields :=
  .of_value (fun _ _ => eq_of_nonEmptyText?) (by decide)
    (by simp [nameSlots, Slot.name, Catalog.reads_name])
    (by simp [textFields, slots, strictSlot, commentSlots, nameSlots, Slot.comment, Slot.name,
      Slot.key])

/-! The keys of the three tables differ, so a key is looked up in at most one of them. -/

/-- The fields of comments have distinct keys. -/
theorem nodup_commentKeys : (commentFields.map (·.1)).Nodup := by decide

/-- The fields of names have distinct keys. -/
theorem nodup_textKeys : (textFields.map (·.1)).Nodup := by decide

/-- No field of a comment has the key of strictness. -/
theorem ne_strictKey_of_comment :
    ∀ name ∈ commentFields.map (·.1), name ≠ strictKey := by
  decide

/-- No field of a name has the key of strictness or of a comment. -/
theorem ne_strictKey_of_text : ∀ name ∈ textFields.map (·.1),
    name ≠ strictKey ∧ (commentFields.lookup name).isNone = true := by
  decide

/-- A field that is assigned is one of the three kinds. -/
theorem setsBy_of_assign {settings result : Settings} {key : Scalar} {value : Value}
    (h : settings.assign key value = .ok result) :
    SetsBy strictFields Value.boolean? settings (key, value) result ∨
      SetsBy commentFields comment? settings (key, value) result ∨
      SetsBy textFields Value.nonEmptyText? settings (key, value) result := by
  unfold assign at h
  split at h
  · cases h
  · next name hname =>
    have hkey := Yaml.text?_scalar_eq_some_iff.mp hname
    -- The failure policy comes first, then the comments, then the texts.
    unfold assignNamed at h
    split at h
    · next hstrict =>
      split at h
      · cases h
      · next strict hvalue =>
        exact .inl ⟨_, List.mem_singleton_self _, hstrict ▸ hkey, strict, hvalue, Except.ok.inj h⟩
    · split at h
      · next _ set hlookup =>
        split at h
        · cases h
        · next comment hvalue =>
          have hentry := (lookup_eq_some_iff nodup_commentKeys).mp hlookup
          exact .inr (.inl ⟨(name, set), hentry, hkey, comment, hvalue, Except.ok.inj h⟩)
      · next set _ hlookup =>
        split at h
        · cases h
        · next text hvalue =>
          have hentry := (lookup_eq_some_iff nodup_textKeys).mp hlookup
          exact .inr (.inr ⟨(name, set), hentry, hkey, text, hvalue, Except.ok.inj h⟩)
      · cases h

/-- A field is set by its entry in one of the tables. -/
theorem assign_eq_ok_iff {settings result : Settings} {key : Scalar} {value : Value} :
    settings.assign key value = .ok result ↔
      SetsBy strictFields Value.boolean? settings (key, value) result ∨
      SetsBy commentFields comment? settings (key, value) result ∨
      SetsBy textFields Value.nonEmptyText? settings (key, value) result := by
  constructor
  · exact setsBy_of_assign
  · rintro (⟨entry, hentry, rfl, strict, hvalue, rfl⟩ | ⟨⟨name, set⟩, hentry, rfl, comment, hvalue,
      rfl⟩ | ⟨⟨name, set⟩, hentry, rfl, text, hvalue, rfl⟩)
    · obtain rfl := List.mem_singleton.mp hentry
      simp only [assign, Scalar.text?, assignNamed, if_pos, hvalue]
    -- Only tables that come before could take the key away, and no two of them share one.
    · have hlookup := (lookup_eq_some_iff nodup_commentKeys).mpr hentry
      have hne := ne_strictKey_of_comment name (List.mem_map_of_mem hentry)
      simp only [assign, Scalar.text?, assignNamed, if_neg hne, hlookup, hvalue]
    · have hlookup := (lookup_eq_some_iff nodup_textKeys).mpr hentry
      obtain ⟨hne, hnone⟩ := ne_strictKey_of_text name (List.mem_map_of_mem hentry)
      rw [Option.isNone_iff_eq_none] at hnone
      simp only [assign, Scalar.text?, assignNamed, if_neg hne, hnone, hlookup, hvalue]

/-- The slots say exactly what assigning a field of the settings does. -/
theorem assigns : Assigns slots fun settings field => settings.assign field.1 field.2 where
  accepts := by
    intro settings field
    simp only [assign_eq_ok_iff, exists_or, describes_strictFields.exists_setsBy_iff,
      describes_commentFields.exists_setsBy_iff, describes_textFields.exists_setsBy_iff]
    -- The slots are those of the three tables together.
    simp only [slots, List.cons_append, List.mem_cons, List.mem_append, List.not_mem_nil,
      or_and_right, exists_or, or_false]
  sets := by
    intro settings field result hassign slot hslot
    obtain hsets | hsets | hsets := assign_eq_ok_iff.mp hassign
    · exact describes_strictFields.value_of_setsBy hsets hslot
    · exact describes_commentFields.value_of_setsBy hsets hslot
    · exact describes_textFields.value_of_setsBy hsets hslot

/-- Settings with the same values in all slots and the same modules are the same. -/
theorem ext_slots {settings settings' : Settings}
    (h : ∀ slot ∈ slots, slot.value settings = slot.value settings')
    (hmodules : settings.modules = settings'.modules) : settings = settings' := by
  simp only [slots, strictSlot, commentSlots, nameSlots, Slot.comment, Slot.name, List.cons_append,
    List.nil_append, List.forall_mem_cons, Value.scalar.injEq, Scalar.text.injEq,
    Scalar.bool.injEq, Slot.commentValue_injective.eq_iff] at h
  cases settings
  cases settings'
  simp_all

/-- A field leaves the modules as they are. -/
theorem modules_of_assign {settings result : Settings} {field : Scalar × Value}
    (h : settings.assign field.1 field.2 = .ok result) : result.modules = settings.modules := by
  have hstrict : ∀ entry ∈ strictFields, ∀ settings item,
      (entry.2 settings item).modules = settings.modules := by simp [strictFields]
  have hcomment : ∀ entry ∈ commentFields, ∀ settings item,
      (entry.2 settings item).modules = settings.modules := by simp [commentFields]
  have htext : ∀ entry ∈ textFields, ∀ settings item,
      (entry.2 settings item).modules = settings.modules := by simp [textFields]
  obtain ⟨entry, hentry, -, item, -, rfl⟩ | ⟨entry, hentry, -, item, -, rfl⟩ |
    ⟨entry, hentry, -, item, -, rfl⟩ := assign_eq_ok_iff.mp h
  · exact hstrict entry hentry settings item
  · exact hcomment entry hentry settings item
  · exact htext entry hentry settings item

/-- **Fields** other than the modules are read if they fit, and give their values. -/
theorem foldlM_assign_eq_ok_iff {fields : Fields} {settings result : Settings}
    (hdistinct : Fields.HasDistinctKeys fields) :
    fields.foldlM (fun settings field => settings.assign field.1 field.2) settings = .ok result ↔
      Fits slots fields ∧ Gives slots fields settings result ∧
        result.modules = settings.modules :=
  assigns.foldlM_eq_ok_iff nodup_slots hdistinct modules (fun _ _ _ => modules_of_assign)
    fun _ _ => ext_slots

end Settings

end TypeExport
