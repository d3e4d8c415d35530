import TypeExport.Catalog.Read
import TypeExport.Proofs.Outcome

/-!
# Documents with types in another order

When is a document another one with its list of types in another order?  Whatever can be reached in
one document can be reached in the other one in the same way, only the lists of types hold what they
hold in different orders.  That lets the collections of the documents be numbered and shared in
different ways, and it lets a list of types stand inside itself.

* `typesValue?` — the value that stands for the types of a document.
* `Reordering` — a document and another one with its types in another order.
* `reordering_of_perm` — the items of the list changed their order, and nothing else happened.
* `IsEntryList`, `Reordering.itemList?` — the items of any list, unless it is the list of types.
* `Reordering.documentEntries` — the entries of the documents.
-/

namespace TypeExport.Catalog

open Yaml (Document Value Fields Collection Expected)

/-! ### The relation -/

/-- The value that stands for the types of a document. -/
def typesValue? (document : Document) : Option Value :=
  (document.fields? document.root).bind (Value.find? · "types")

section

variable (same : Value → Value → Prop)

/-- Fields with the same keys and with values that are the same. -/
def SameFields : Fields → Fields → Prop :=
  List.Forall₂ fun field field' => field.1 = field'.1 ∧ same field.2 field'.2

/-- Collections of one kind that hold values that are the same. -/
inductive SameContents : Collection → Collection → Prop
  | list {items items' : List Value} :
      List.Forall₂ same items items' → SameContents (.list items) (.list items')
  | mapping {fields fields' : Fields} :
      SameFields same fields fields' → SameContents (.mapping fields) (.mapping fields')
  | pair {first second first' second' : Value} :
      same first first' → same second second' →
        SameContents (.pair first second) (.pair first' second')
  | set {items : List Scalar} : SameContents (.set items) (.set items)

/-- Lists that hold values that are the same, perhaps in another order. -/
def SameUpToOrder (items items' : List Value) : Prop :=
  ∃ between, items.Perm between ∧ List.Forall₂ same between items'

/-- The lists of types of two documents. -/
structure TypesReordered (document document' : Document) (value value' : Value) : Prop where
  types : typesValue? document = some value
  types' : typesValue? document' = some value'
  items : ∃ items items', document.items? value = some items ∧
    document'.items? value' = some items' ∧ SameUpToOrder same items items'

/-- The documents are the same but for the order of their types: starting from the roots, scalars
are the same and collections hold the same, except for the lists of types. -/
structure Reordering (document document' : Document) : Prop where
  root : same document.root document'.root
  scalar {value value' : Value} : same value value' → value.scalar? = value'.scalar?
  content {value value' : Value} : same value value' →
    Option.Rel (SameContents same) (document.collection? value) (document'.collection? value') ∨
      TypesReordered same document document' value value'

end

variable {same : Value → Value → Prop} {document document' : Document} {value value' : Value}
  {fields fields' : Fields}

/-- What one collection holds is the same as what the other holds, from either side. -/
theorem SameContents.symm {collection collection' : Collection}
    (h : SameContents same collection collection') :
    SameContents (fun value' value => same value value') collection' collection := by
  cases h with
  | list hitems => exact .list hitems.flip
  | mapping hfields => exact .mapping (hfields.flip.imp fun _ _ hfield => ⟨hfield.1.symm, hfield.2⟩)
  | pair hfirst hsecond => exact .pair hfirst hsecond
  | set => exact .set

/-- The order may be changed back. -/
theorem SameUpToOrder.symm {items items' : List Value} (h : SameUpToOrder same items items') :
    SameUpToOrder (fun value' value => same value value') items' items := by
  obtain ⟨between, hperm, hsame⟩ := h
  obtain ⟨others, hothers, hperm'⟩ := List.perm_comp_forall₂ hperm hsame
  exact ⟨others, hperm'.symm, hothers.flip⟩

/-- The second document is a reordering, too. -/
theorem Reordering.symm (h : Reordering same document document') :
    Reordering (fun value' value => same value value') document' document where
  root := h.root
  scalar hsame := (h.scalar hsame).symm
  content {value' value} hsame := by
    -- Each way of holding the same goes both ways.
    obtain hcontent | htypes := h.content hsame
    · left
      generalize document.collection? value = content, document'.collection? value' = content'
        at hcontent
      cases hcontent with
      | none => exact .none
      | some hcontents => exact .some hcontents.symm
    · obtain ⟨items, items', hitems, hitems', hsameItems⟩ := htypes.items
      exact .inr ⟨htypes.types', htypes.types, items', items, hitems', hitems, hsameItems.symm⟩

/-! ### A list in another order -/

/-- The document in which a list holds other items. -/
def withItems (document : Document) (number : Nat) (items : List Value) : Document :=
  { document with collections := document.collections.setIfInBounds number (.list items) }

/-- A collection holds the same as itself. -/
theorem SameContents.refl (collection : Collection) : SameContents Eq collection collection := by
  cases collection with
  | list items => exact .list (List.forall₂_same.mpr fun _ _ => rfl)
  | mapping fields => exact .mapping (List.forall₂_same.mpr fun _ _ => ⟨rfl, rfl⟩)
  | pair first second => exact .pair rfl rfl
  | set items => exact .set

section

variable {number : Nat} {items items' : List Value}

/-- Only the changed list has other items; all other collections are as before. -/
theorem collection?_withItems (hitems : document.collections[number]? = some (.list items))
    (other : Nat) : (withItems document number items').collection? (.collection other)
      = if other = number then some (.list items')
        else document.collection? (.collection other) := by
  have hlt : number < document.collections.size := (Array.getElem?_eq_some_iff.mp hitems).1
  show (document.collections.setIfInBounds number (.list items'))[other]? = _
  rw [Array.getElem?_setIfInBounds]
  by_cases hother : number = other
  · rw [if_pos hother, if_pos hother.symm, if_pos (hother ▸ hlt)]
  · rw [if_neg hother, if_neg (Ne.symm hother)]
    rfl

/-- The mappings are the same, as only a list was changed. -/
theorem fields?_withItems (hitems : document.collections[number]? = some (.list items)) :
    (withItems document number items').fields? value = document.fields? value := by
  cases value with
  | scalar => rfl
  | collection other =>
    unfold Document.fields?
    rw [collection?_withItems hitems]
    by_cases hother : other = number
    · subst hother
      have hlist : document.collection? (.collection other) = some (.list items) := hitems
      rw [if_pos rfl, hlist]
    · rw [if_neg hother]

/-- **A list in another order.** Where the items of the list of types change their order, the
document is one with its types in another order. -/
theorem reordering_of_perm (htypes : typesValue? document = some (.collection number))
    (hitems : document.collections[number]? = some (.list items)) (hperm : items.Perm items') :
    Reordering Eq document (withItems document number items') where
  root := rfl
  scalar := by
    rintro value _ rfl
    rfl
  content := by
    rintro value _ rfl
    cases value with
    | scalar => exact .inl .none
    | collection other =>
      -- Only the list of the types has changed.
      by_cases hother : other = number
      · subst hother
        refine .inr ⟨htypes, ?_, items, items', ?_, ?_, items', hperm, ?_⟩
        · unfold typesValue?
          rw [fields?_withItems hitems]
          exact htypes
        · unfold Document.items?
          have hlist : document.collection? (.collection other) = some (.list items) := hitems
          rw [hlist]
        · unfold Document.items?
          rw [collection?_withItems hitems, if_pos rfl]
        · exact List.forall₂_same.mpr fun _ _ => rfl
      · left
        rw [collection?_withItems hitems, if_neg hother]
        cases document.collection? (.collection other) with
        | none => exact .none
        | some collection => exact .some (.refl collection)

end

/-! ### Scalars -/

/-- Values with the same scalar are this scalar, or none of them is a scalar. -/
theorem scalar_or_collection_of_scalar? (h : value.scalar? = value'.scalar?) :
    (∃ scalar, value = .scalar scalar ∧ value' = .scalar scalar) ∨
      ∃ number number', value = .collection number ∧ value' = .collection number' := by
  cases value with
  | scalar scalar =>
    cases value' with
    | scalar scalar' =>
      obtain rfl : scalar = scalar' := Option.some.inj h
      exact .inl ⟨scalar, rfl, rfl⟩
    | collection => cases h
  | collection number =>
    cases value' with
    | scalar => cases h
    | collection number' => exact .inr ⟨number, number', rfl, rfl⟩

/-- What is read from scalars only. -/
def ReadsScalars {α : Type} (read : Value → α) : Prop :=
  ∀ number number', read (.collection number) = read (.collection number')

/-- What is read from scalars only is the same of values with the same scalar. -/
theorem ReadsScalars.eq {α : Type} {read : Value → α} (h : ReadsScalars read)
    (hscalar : value.scalar? = value'.scalar?) : read value = read value' := by
  obtain ⟨scalar, rfl, rfl⟩ | ⟨number, number', rfl, rfl⟩ :=
    scalar_or_collection_of_scalar? hscalar
  · rfl
  · exact h number number'

/-- Texts are read from scalars only. -/
theorem readsScalars_text? : ReadsScalars Value.text? := fun _ _ => rfl

/-- So are texts that are not empty. -/
theorem readsScalars_nonEmptyText? : ReadsScalars Value.nonEmptyText? := fun _ _ => rfl

/-- Whether a value is null is a matter of scalars. -/
theorem readsScalars_isNull : ReadsScalars Value.isNull := fun _ _ => rfl

/-- Booleans are read from scalars only. -/
theorem readsScalars_boolean? : ReadsScalars Value.boolean? := fun _ _ => rfl

/-- So are integers. -/
theorem readsScalars_integer? : ReadsScalars Value.integer? := fun _ _ => rfl

/-! ### Fields -/

/-- The values under a key are the same. -/
theorem SameFields.find? (h : SameFields same fields fields') (key : String) :
    Option.Rel same (Value.find? fields key) (Value.find? fields' key) := by
  unfold Value.find?
  induction h with
  | nil => exact .none
  | @cons field field' _ _ hfield _ ih =>
    rw [List.find?_cons, List.find?_cons, ← hfield.1]
    cases field.1.text? == some key with
    | true => exact .some hfield.2
    | false => exact ih

/-- The keys are the same. -/
theorem SameFields.map_fst (h : SameFields same fields fields') :
    fields.map (·.1) = fields'.map (·.1) := by
  induction h with
  | nil => rfl
  | cons hfield _ ih => rw [List.map_cons, List.map_cons, hfield.1, ih]

/-- Whether there is a key that is not allowed is a matter of the keys. -/
theorem SameFields.unknownKey? (h : SameFields same fields fields') (allowed : List String) :
    Yaml.unknownKey? allowed fields = Yaml.unknownKey? allowed fields' := by
  -- The key that is reported is the least one, so it does not depend on the values.
  have hkeys (fields : Fields) : Yaml.unknownKey? allowed fields = Yaml.least?
      (((fields.map (·.1)).filter fun key => !Yaml.isAllowed allowed key).map (·.display)) := by
    unfold Yaml.unknownKey?
    rw [List.filter_map, List.map_map]
    rfl
  rw [hkeys, hkeys, h.map_fst]

/-- What is read from a scalar under a key is the same. -/
theorem SameFields.bind_eq {α : Type} (h : Reordering same document document')
    (hfields : SameFields same fields fields') {read : Value → Option α} (hread : ReadsScalars read)
    (key : String) : (Value.find? fields key).bind read = (Value.find? fields' key).bind read := by
  have hfind := hfields.find? key
  generalize Value.find? fields key = value?, Value.find? fields' key = value'? at hfind
  cases hfind with
  | none => rfl
  | some hsame => exact hread.eq (h.scalar hsame)

/-! ### Lists -/

/-- The value of the types stands under its key in the mapping of the root. -/
theorem typesValue?_eq_some_iff :
    typesValue? document = some value ↔
      ∃ fields, document.fields? document.root = some fields ∧
        Value.find? fields "types" = some value :=
  Option.bind_eq_some_iff

/-- All items of a list are entries, and there is at least one. -/
def IsEntryList (document : Document) (items : List Value) : Prop :=
  items ≠ [] ∧ ∀ item ∈ items, ∃ entry, readEntry document item = .ok entry

/-- The types of the document are entries. -/
def HasEntries (document : Document) : Prop :=
  ∀ value items, typesValue? document = some value → document.items? value = some items →
    ∀ item ∈ items, ∃ entry, readEntry document item = .ok entry

/-- Items are those of a list. -/
theorem items?_eq_some_iff {items : List Value} :
    document.items? value = some items ↔ document.collection? value = some (.list items) := by
  unfold Document.items?
  split
  · next others hothers => rw [hothers, Option.some.injEq, Option.some.injEq, Collection.list.injEq]
  · next hne =>
    constructor
    · nofun
    · exact fun h => absurd h (hne items)

/-- Fields are those of a mapping. -/
theorem fields?_eq_some_iff :
    document.fields? value = some fields ↔ document.collection? value = some (.mapping fields) := by
  unfold Document.fields?
  split
  · next others hothers =>
    rw [hothers, Option.some.injEq, Option.some.injEq, Collection.mapping.injEq]
  · next hne =>
    constructor
    · nofun
    · exact fun h => absurd h (hne fields)

/-- Mappings have the same fields. -/
theorem Reordering.fields? (h : Reordering same document document') (hsame : same value value')
    (hfields : document.fields? value = some fields) :
    ∃ fields', document'.fields? value' = some fields' ∧ SameFields same fields fields' := by
  rw [fields?_eq_some_iff] at hfields
  obtain hcontent | htypes := h.content hsame
  · rw [hfields] at hcontent
    generalize hcontent' : document'.collection? value' = content' at hcontent
    cases hcontent with
    | some hcontents =>
      cases hcontents with
      | mapping hsameFields => exact ⟨_, fields?_eq_some_iff.mpr hcontent', hsameFields⟩
  -- The list of types is no mapping.
  · obtain ⟨items, -, hitems, -⟩ := htypes.items
    cases hfields.symm.trans (items?_eq_some_iff.mp hitems)

/-- Lists hold the same items in the same order, except for the list of types. -/
theorem Reordering.items? (h : Reordering same document document') (hsame : same value value')
    {items : List Value} (hitems : document.items? value = some items) :
    ∃ items', document'.items? value' = some items' ∧
      (List.Forall₂ same items items' ∨
        typesValue? document = some value ∧ SameUpToOrder same items items') := by
  obtain hcontent | htypes := h.content hsame
  · rw [items?_eq_some_iff.mp hitems] at hcontent
    generalize hcontent' : document'.collection? value' = content' at hcontent
    cases hcontent with
    | some hcontents =>
      cases hcontents with
      | list hsameItems => exact ⟨_, items?_eq_some_iff.mpr hcontent', .inl hsameItems⟩
  · obtain ⟨others, items', hothers, hitems', hsameItems⟩ := htypes.items
    obtain rfl : others = items := Option.some.inj (hothers.symm.trans hitems)
    exact ⟨items', hitems', .inr ⟨htypes.types, hsameItems⟩⟩

/-- There are as many items in either order. -/
theorem SameUpToOrder.length_eq {items items' : List Value} (h : SameUpToOrder same items items') :
    items.length = items'.length := by
  obtain ⟨between, hperm, hsame⟩ := h
  exact hperm.length_eq.trans hsame.length_eq

/-- Lists of one length are empty together. -/
theorem isEmpty_eq_of_length_eq {α β : Type} {items : List α} {items' : List β}
    (h : items.length = items'.length) : items.isEmpty = items'.isEmpty := by
  rw [Bool.eq_iff_iff, List.isEmpty_iff_length_eq_zero, List.isEmpty_iff_length_eq_zero, h]

/-- What counts as nothing is the same. -/
theorem Reordering.isVoid_eq (h : Reordering same document document') (hsame : same value value') :
    document.isVoid value = document'.isVoid value' := by
  obtain ⟨scalar, rfl, rfl⟩ | ⟨number, number', rfl, rfl⟩ :=
    scalar_or_collection_of_scalar? (h.scalar hsame)
  · rfl
  -- A list is empty if it has no items, in whatever order they are.
  · unfold Document.isVoid
    obtain hcontent | htypes := h.content hsame
    · generalize document.collection? (.collection number) = content,
        document'.collection? (.collection number') = content' at hcontent
      cases hcontent with
      | none => rfl
      | some hcontents =>
        cases hcontents with
        | list hitems => exact isEmpty_eq_of_length_eq hitems.length_eq
        | mapping hfields => exact isEmpty_eq_of_length_eq hfields.length_eq
        | pair => rfl
        | set => rfl
    · obtain ⟨items, items', hitems, hitems', hsameItems⟩ := htypes.items
      rw [items?_eq_some_iff.mp hitems, items?_eq_some_iff.mp hitems']
      exact isEmpty_eq_of_length_eq hsameItems.length_eq

/-- An absent value, or one that counts as nothing, is an empty list in both documents. -/
theorem Reordering.itemList? (h : Reordering same document document')
    {value? value'? : Option Value} (hsame : Option.Rel same value? value'?) {items : List Value}
    (hitems : document.itemList? value? = some items) :
    ∃ items', document'.itemList? value'? = some items' ∧
      (List.Forall₂ same items items' ∨ ∃ value, document.items? value = some items ∧
        typesValue? document = some value ∧ SameUpToOrder same items items') := by
  cases hsame with
  | none =>
    obtain rfl : [] = items := Option.some.inj hitems
    exact ⟨[], rfl, .inl .nil⟩
  | @some value value' hsame =>
    unfold Document.itemList? at hitems ⊢
    dsimp only at hitems ⊢
    rw [h.isVoid_eq hsame] at hitems
    -- What counts as nothing does so in both, and stands for no items.
    by_cases hvoid : document'.isVoid value' = true
    · rw [if_pos hvoid] at hitems ⊢
      obtain rfl : [] = items := Option.some.inj hitems
      exact ⟨[], rfl, .inl .nil⟩
    · rw [if_neg hvoid] at hitems ⊢
      obtain ⟨items', hitems', hsameItems⟩ := h.items? hsame hitems
      exact ⟨items', hitems', hsameItems.imp_right fun htypes => ⟨value, hitems, htypes⟩⟩

/-- A list of types has entries, if it is not empty. -/
theorem SameUpToOrder.forall₂_or_entries {items items' : List Value}
    (horder : SameUpToOrder same items items') (hentries : HasEntries document)
    (htypes : typesValue? document = some value) (hitems : document.items? value = some items) :
    List.Forall₂ same items items' ∨ IsEntryList document items := by
  by_cases hnil : items = []
  · left
    have hnil' : items' = [] := by
      rw [← List.length_eq_zero_iff, ← horder.length_eq, hnil, List.length_nil]
    rw [hnil, hnil']
    exact .nil
  · exact .inr ⟨hnil, hentries value items htypes hitems⟩

/-- Lists hold the same items in the same order, unless they hold entries. -/
theorem Reordering.items?_or_entries (h : Reordering same document document')
    (hentries : HasEntries document) (hsame : same value value') {items : List Value}
    (hitems : document.items? value = some items) :
    ∃ items', document'.items? value' = some items' ∧
      (List.Forall₂ same items items' ∨ IsEntryList document items) := by
  obtain ⟨items', hitems', hsameItems | ⟨htypes, horder⟩⟩ := h.items? hsame hitems
  · exact ⟨items', hitems', .inl hsameItems⟩
  · exact ⟨items', hitems', horder.forall₂_or_entries hentries htypes hitems⟩

/-- The same where a value that counts as nothing is an empty list. -/
theorem Reordering.itemList?_or_entries (h : Reordering same document document')
    (hentries : HasEntries document) {value? value'? : Option Value}
    (hsame : Option.Rel same value? value'?) {items : List Value}
    (hitems : document.itemList? value? = some items) :
    ∃ items', document'.itemList? value'? = some items' ∧
      (List.Forall₂ same items items' ∨ IsEntryList document items) := by
  obtain ⟨items', hitems', hsameItems | ⟨value, hvalue, htypes, horder⟩⟩ := h.itemList? hsame hitems
  · exact ⟨items', hitems', .inl hsameItems⟩
  · exact ⟨items', hitems', horder.forall₂_or_entries hentries htypes hvalue⟩

/-! ### Entries -/

/-- Entries with the same name and with the same fields. -/
def SameEntry (same : Value → Value → Prop) (entry entry' : String × Fields) : Prop :=
  entry.1 = entry'.1 ∧ SameFields same entry.2 entry'.2

/-- A required value is read exactly if it is there. -/
theorem orWrong_eq_ok_iff {α : Type} {place : Place} {key : String} {expected : Expected}
    {value? : Option α} {result : α} :
    orWrong place key expected value? = .ok result ↔ value? = some result := by
  cases value? with
  | none => exact ⟨nofun, nofun⟩
  | some value => exact ⟨fun h => congrArg some (Except.ok.inj h),
      fun h => congrArg Except.ok (Option.some.inj h)⟩

/-- The check of keys passes exactly if no key is unknown. -/
theorem checkKeys_eq_ok_iff {place : Place} {allowed : List String} :
    checkKeys place allowed fields = .ok () ↔ Yaml.unknownKey? allowed fields = none := by
  unfold checkKeys
  cases Yaml.unknownKey? allowed fields with
  | none => exact ⟨fun _ => rfl, fun _ => rfl⟩
  | some key => exact ⟨nofun, nofun⟩

/-- An entry is a mapping with a name and with known keys. -/
theorem readEntry_eq_ok_iff {name : String} :
    readEntry document value = .ok (name, fields) ↔
      document.fields? value = some fields ∧ Yaml.unknownKey? entryKeys fields = none ∧
        (Value.find? fields "name").bind (·.nonEmptyText?) = some name := by
  unfold readEntry
  cases document.fields? value with
  | none =>
    -- The three checks of an entry are the three conditions, in their order.
    constructor
    · nofun
    · rintro ⟨hfields, -⟩
      cases hfields
  | some others =>
    dsimp only
    simp only [Except.bind_eq_ok_iff, requiredText, orWrong_eq_ok_iff]
    constructor
    · rintro ⟨⟨⟩, hkeys, other, hname, heq⟩
      obtain ⟨rfl, rfl⟩ := Prod.mk.inj (Except.ok.inj heq)
      exact ⟨rfl, checkKeys_eq_ok_iff.mp hkeys, hname⟩
    · rintro ⟨hfields, hkeys, hname⟩
      obtain rfl := Option.some.inj hfields
      exact ⟨(), checkKeys_eq_ok_iff.mpr hkeys, name, hname, rfl⟩

/-- What is an entry in one document is the same entry in the other one. -/
theorem Reordering.readEntry (h : Reordering same document document') (hsame : same value value')
    {entry : String × Fields} (hentry : Catalog.readEntry document value = .ok entry) :
    ∃ entry', Catalog.readEntry document' value' = .ok entry' ∧ SameEntry same entry entry' := by
  obtain ⟨name, fields⟩ := entry
  obtain ⟨hfields, hkeys, hname⟩ := readEntry_eq_ok_iff.mp hentry
  obtain ⟨fields', hfields', hsameFields⟩ := h.fields? hsame hfields
  refine ⟨(name, fields'), readEntry_eq_ok_iff.mpr ⟨hfields', ?_, ?_⟩, rfl, hsameFields⟩
  · rw [← hsameFields.unknownKey?, hkeys]
  · rw [← hsameFields.bind_eq h readsScalars_nonEmptyText?, hname]

/-- The entries of a document are read from the list of its types, which may be absent, and no other
key is there. -/
theorem documentEntries_eq_ok_iff {raw : List (String × Fields)} :
    documentEntries document = .ok raw ↔
      ∃ fields, document.fields? document.root = some fields ∧
        (fields.all fun field => Yaml.isAllowed ["types"] field.1) = true ∧
        ∃ items, document.itemList? (Value.find? fields "types") = some items ∧
          items.mapM (Catalog.readEntry document) = .ok raw := by
  unfold documentEntries
  cases document.fields? document.root with
  | none =>
    constructor
    · nofun
    · rintro ⟨fields, hfields, -⟩
      cases hfields
  | some fields =>
    dsimp only
    -- A foreign key is found before the list is looked at.
    split_ifs with hkeys
    · cases hitems : document.itemList? (Value.find? fields "types") with
      | none =>
        constructor
        · nofun
        · rintro ⟨others, hothers, -, items, hitems', -⟩
          obtain rfl := Option.some.inj hothers
          cases hitems.symm.trans hitems'
      | some items =>
        constructor
        · exact fun h => ⟨fields, rfl, hkeys, items, hitems, h⟩
        · rintro ⟨others, hothers, -, items', hitems', h⟩
          obtain rfl := Option.some.inj hothers
          obtain rfl := Option.some.inj (hitems.symm.trans hitems')
          exact h
    · constructor
      · nofun
      · rintro ⟨others, hothers, hkeys', -⟩
        obtain rfl := Option.some.inj hothers
        exact absurd hkeys' hkeys

/-- **Entries.** The documents have the same entries, perhaps in another order. -/
theorem Reordering.documentEntries (h : Reordering same document document')
    {raw : List (String × Fields)} (hraw : Catalog.documentEntries document = .ok raw) :
    ∃ between raw', Catalog.documentEntries document' = .ok raw' ∧ raw.Perm between ∧
      List.Forall₂ (SameEntry same) between raw' := by
  obtain ⟨fields, hfields, hkeys, items, hitems, hread⟩ := documentEntries_eq_ok_iff.mp hraw
  obtain ⟨fields', hfields', hsameFields⟩ := h.fields? h.root hfields
  obtain ⟨items', hitems', hsameItems⟩ := h.itemList? (hsameFields.find? "types") hitems
  -- A list that keeps its order has the same items in some order, too.
  obtain ⟨others, hperm, hsameOthers⟩ : SameUpToOrder same items items' := by
    obtain hsameItems | ⟨-, -, -, horder⟩ := hsameItems
    · exact ⟨items, .refl items, hsameItems⟩
    · exact horder
  obtain ⟨between, hbetween, hpermRaw⟩ := Except.exists_mapM_eq_ok_of_perm hperm hread
  obtain ⟨raw', hraw', hsameRaw⟩ := Except.exists_mapM_eq_ok_of_forall₂ hsameOthers
    (fun _ _ _ hsame hentry => h.readEntry hsame hentry) hbetween
  refine ⟨between, raw', documentEntries_eq_ok_iff.mpr
    ⟨fields', hfields', ?_, items', hitems', hraw'⟩, hpermRaw, hsameRaw⟩
  have hall (fields : Fields) : (fields.all fun field => Yaml.isAllowed ["types"] field.1)
      = (fields.map (·.1)).all (Yaml.isAllowed ["types"]) := by
    rw [List.all_map]
    rfl
  rw [hall, ← hsameFields.map_fst, ← hall, hkeys]

/-- In a document whose entries were read, all types are entries. -/
theorem hasEntries_of_documentEntries {raw : List (String × Fields)}
    (h : Catalog.documentEntries document = .ok raw) : HasEntries document := by
  intro value items hvalue hitems item hitem
  obtain ⟨fields, hfields, -, others, hothers, hread⟩ := documentEntries_eq_ok_iff.mp h
  obtain ⟨fields', hfields', hfind⟩ := typesValue?_eq_some_iff.mp hvalue
  obtain rfl : fields = fields' := Option.some.inj (hfields.symm.trans hfields')
  rw [hfind, Document.itemList?] at hothers
  split_ifs at hothers with hvoid
  · -- A list that counts as nothing has no items.
    obtain ⟨number, rfl⟩ : ∃ number, value = .collection number := by
      cases value with
      | scalar => cases items?_eq_some_iff.mp hitems
      | collection number => exact ⟨number, rfl⟩
    unfold Document.isVoid at hvoid
    rw [items?_eq_some_iff.mp hitems] at hvoid
    obtain rfl := List.isEmpty_iff.mp hvoid
    cases hitem
  · obtain rfl : items = others := Option.some.inj (hitems.symm.trans hothers)
    exact Except.exists_mapM_eq_ok_iff.mp ⟨raw, hread⟩ item hitem

end TypeExport.Catalog
