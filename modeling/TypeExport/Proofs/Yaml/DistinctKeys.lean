import TypeExport.Yaml.Build
import TypeExport.Proofs.Outcome
import Mathlib.Data.List.Nodup
import Mathlib.Tactic.Common

/-!
# Keys of read mappings

A later entry of a mapping takes the place of an earlier one with the same key, so no mapping of a
document that was read has two fields whose keys are the same text.  Collections are filled one
after the other, and each step of building a document keeps this of all of them.

* `HasDistinctKeys` — fields, and documents, in which no text is a key twice.
* `find?_eq_some_iff` — a text finds the only field of that key.
* `Build.Yields` — a step of building keeps distinct keys and yields a value of a certain kind.
* `Build.IsKeyed` — fields with what their keys are compared by, each once.
* `hasDistinctKeys_of_read` — documents that are read have distinct keys.
-/

namespace TypeExport.Yaml

/-- No text is the key of two fields. -/
def Fields.HasDistinctKeys (fields : Fields) : Prop :=
  (fields.filterMap (·.1.text?)).Nodup

/-- A collection that is a mapping has distinct keys. -/
def Collection.HasDistinctKeys (collection : Collection) : Prop :=
  ∀ fields, collection = .mapping fields → Fields.HasDistinctKeys fields

/-- All mappings of a document have distinct keys. -/
def Document.HasDistinctKeys (document : Document) : Prop :=
  ∀ value fields, document.fields? value = some fields → Fields.HasDistinctKeys fields

/-- The text of a scalar is there only if the scalar is that text. -/
theorem text?_scalar_eq_some_iff {scalar : Scalar} {text : String} :
    scalar.text? = some text ↔ scalar = .text text := by
  cases scalar <;> simp [Scalar.text?]

namespace Fields.HasDistinctKeys

variable {fields : Fields} {field : Scalar × Value} {key : String}

/-- The fields behind the first one have distinct keys, too. -/
theorem of_cons (h : HasDistinctKeys (field :: fields)) : HasDistinctKeys fields :=
  h.sublist ((List.sublist_cons_self _ _).filterMap _)

/-- Some of the fields have distinct keys, too. -/
theorem filter (h : HasDistinctKeys fields) (p : Scalar × Value → Bool) :
    HasDistinctKeys (fields.filter p) :=
  h.sublist (List.filter_sublist.filterMap _)

/-- The key of the first field is not the key of another one. -/
theorem find?_eq_none (h : HasDistinctKeys (field :: fields)) (hkey : field.1.text? = some key) :
    Value.find? fields key = none := by
  have hkeys : (field :: fields).filterMap (·.1.text?) = key :: fields.filterMap (·.1.text?) :=
    List.filterMap_cons_some hkey
  rw [HasDistinctKeys, hkeys, List.nodup_cons] at h
  rw [Value.find?, Option.map_eq_none_iff, List.find?_eq_none]
  intro other hother hsame
  exact h.1 (List.mem_filterMap.mpr ⟨other, hother, beq_iff_eq.mp hsame⟩)

end Fields.HasDistinctKeys

section

variable {fields : Fields} {field : Scalar × Value} {key : String}

/-- The first field is found by its own key. -/
theorem find?_cons_of_eq (hkey : field.1.text? = some key) :
    Value.find? (field :: fields) key = some field.2 := by
  simp [Value.find?, hkey]

/-- Another key is looked for behind the first field. -/
theorem find?_cons_of_ne (hkey : field.1.text? ≠ some key) :
    Value.find? (field :: fields) key = Value.find? fields key := by
  simp [Value.find?, hkey]

/-- A text finds the only field of that key. -/
theorem find?_eq_some_iff {value : Value} (hdistinct : Fields.HasDistinctKeys fields) :
    Value.find? fields key = some value ↔ (.text key, value) ∈ fields := by
  induction fields with
  | nil => exact ⟨nofun, nofun⟩
  | cons field fields ih =>
    have hrest := ih hdistinct.of_cons
    -- If the first field has the key, no other one has it, which is why the first is the only one.
    by_cases hkey : field.1.text? = some key
    · rw [hdistinct.find?_eq_none hkey] at hrest
      have hfield : field = (.text key, field.2) :=
        Prod.ext (text?_scalar_eq_some_iff.mp hkey) rfl
      have hnone : (.text key, value) ∉ fields := fun hin => nomatch hrest.mpr hin
      rw [find?_cons_of_eq hkey, List.mem_cons, or_iff_left hnone, hfield]
      simp [eq_comm]
    · have hne : (.text key, value) ≠ field := by
        rintro rfl
        exact hkey rfl
      rw [find?_cons_of_ne hkey, hrest, List.mem_cons, or_iff_right hne]

end

namespace Build

/-! ### Steps -/

/-- All mappings that were found so far have distinct keys. -/
def HasDistinctKeys (builder : Builder) : Prop :=
  ∀ collection ∈ builder.collections.toList, collection.HasDistinctKeys

/-- At the start, no mapping has been found. -/
theorem hasDistinctKeys_start (store : NodeStore) (values : Array (Option Value)) :
    HasDistinctKeys { store, values } := by
  intro collection hcollection
  exact absurd hcollection List.not_mem_nil

/-- A step keeps distinct keys, and its result satisfies a predicate. -/
def Yields {α : Type} (P : α → Prop) (step : Build α) : Prop :=
  ∀ builder result builder', step.run builder = .ok (result, builder') →
    HasDistinctKeys builder → P result ∧ HasDistinctKeys builder'

/-- A step keeps distinct keys, whatever its result is. -/
abbrev Keeps {α : Type} (step : Build α) : Prop :=
  Yields (fun _ => True) step

section

variable {α β : Type} {P : α → Prop} {Q : β → Prop}

/-- A step that only gives a value yields what holds of that value. -/
theorem yields_pure {value : α} (h : P value) : Yields P (pure value) := by
  rintro builder result builder' hstep hkeys
  cases hstep
  exact ⟨h, hkeys⟩

/-- A step that fails has no result. -/
theorem yields_throw (fault : Fault) : Yields P (throw fault : Build α) :=
  nofun

/-- One step after the other yields what the second one yields of every value of the first. -/
theorem Yields.bind {step : Build α} {next : α → Build β} (h : Yields P step)
    (hnext : ∀ value, P value → Yields Q (next value)) : Yields Q (step >>= next) := by
  intro builder result builder' hstep hkeys
  rw [StateT.run_bind] at hstep
  obtain ⟨⟨value, middle⟩, hvalue, hrest⟩ := Except.bind_eq_ok_iff.mp hstep
  obtain ⟨hP, hmiddle⟩ := h _ _ _ hvalue hkeys
  exact hnext value hP _ _ _ hrest hmiddle

/-- What is made of the value of a step holds if it holds of all that the step yields. -/
theorem Yields.map {step : Build α} {f : α → β} (h : Yields P step)
    (hf : ∀ value, P value → Q (f value)) : Yields Q (f <$> step) := by
  rw [map_eq_pure_bind]
  exact h.bind fun value hvalue => yields_pure (hf value hvalue)

/-- What the builder is like may be looked at. -/
theorem keeps_get : Keeps (get : Build Builder) := by
  rintro builder result builder' hstep hkeys
  cases hstep
  exact ⟨trivial, hkeys⟩

/-- A change of the builder that keeps distinct keys is such a step. -/
theorem keeps_modify {f : Builder → Builder}
    (h : ∀ builder, HasDistinctKeys builder → HasDistinctKeys (f builder)) :
    Keeps (modify f : Build PUnit) := by
  rintro builder result builder' hstep hkeys
  cases hstep
  exact ⟨trivial, h builder hkeys⟩

/-- An invariant of a state that every step yields again is yielded by all of them together. -/
theorem Yields.foldlM {step : β → α → Build β} {items : List α}
    (h : ∀ state item, Q state → Yields Q (step state item)) {state : β} (hstate : Q state) :
    Yields Q (items.foldlM step state) := by
  induction items generalizing state with
  | nil => exact yields_pure hstate
  | cons item items ih =>
    rw [List.foldlM_cons]
    exact (h state item hstate).bind fun _ hnext => ih hnext

/-- Steps that keep distinct keys keep them together, and their values are given in a list. -/
theorem Keeps.mapM {step : α → Build β} (h : ∀ item, Keeps (step item)) (items : List α) :
    Keeps (items.mapM step) := by
  induction items with
  | nil => exact yields_pure trivial
  | cons item items ih =>
    rw [List.mapM_cons]
    exact (h item).bind fun _ _ => ih.bind fun _ _ => yields_pure trivial

/-- Steps that keep distinct keys keep them together. -/
theorem Keeps.forM {step : α → Build PUnit} (h : ∀ item, Keeps (step item)) (items : List α) :
    Keeps (items.forM step) := by
  induction items with
  | nil => exact yields_pure trivial
  | cons item items ih => exact (h item).bind fun _ _ => ih

end

/-! ### Values -/

/-- Looking up a node changes nothing. -/
theorem keeps_node (id : NodeId) : Keeps (node id) := by
  refine keeps_get.bind fun builder _ => ?_
  split
  · exact yields_pure trivial
  · exact yields_throw .malformed

/-- A new collection with distinct keys joins those that are there. -/
theorem keeps_collection {content : Collection} (hcontent : content.HasDistinctKeys) :
    Keeps (collection content) := by
  refine keeps_get.bind fun builder _ => Yields.bind (keeps_modify fun builder hkeys => ?_)
    fun _ _ => yields_pure trivial
  intro found hfound
  rw [Array.toList_push, List.mem_append, List.mem_singleton] at hfound
  obtain hfound | rfl := hfound
  · exact hkeys found hfound
  · exact hcontent

/-- The same for a collection that waits to be filled. -/
theorem keeps_waitingCollection (id : NodeId) {content : Collection}
    (hcontent : content.HasDistinctKeys) : Keeps (waitingCollection id content) := by
  refine (keeps_collection hcontent).bind fun number _ => ?_
  exact Yields.bind (keeps_modify fun _ hkeys => hkeys) fun _ _ => yields_pure trivial

/-- Looking up the text of a node changes nothing. -/
theorem keeps_scalarText (id : NodeId) : Keeps (scalarText id) := by
  refine keeps_get.bind fun builder _ => ?_
  split
  · exact yields_pure trivial
  · exact yields_throw .malformed

/-- Reading a scalar changes nothing. -/
theorem keeps_scalar (id : NodeId) (tag : Tag) : Keeps (scalar id tag) := by
  refine (keeps_scalarText id).bind fun text _ => ?_
  split
  · exact yields_pure trivial
  · exact yields_throw _

/-- A mapping that waits to be filled has no keys yet. -/
theorem hasDistinctKeys_empty : Collection.HasDistinctKeys (.mapping []) := by
  intro fields hfields
  cases hfields
  exact List.nodup_nil

/-- Finding the value of a node keeps distinct keys: at most an empty collection is added. -/
theorem keeps_value (id : NodeId) : Keeps (value id) := by
  refine keeps_get.bind fun builder _ => ?_
  split
  · exact yields_pure trivial
  · refine (keeps_node id).bind fun node _ => ?_
    -- The value is noted behind all kinds of nodes, which differ only in the step before.
    have hnoted {step : Build Value} (hstep : Keeps step) : Keeps (do
        let value ← step
        modify fun builder =>
          { builder with values := builder.values.setIfInBounds id (some value) }
        return value) :=
      hstep.bind fun _ _ =>
        Yields.bind (keeps_modify fun _ hkeys => hkeys) fun _ _ => yields_pure trivial
    dsimp only
    split
    · exact hnoted (keeps_waitingCollection id nofun)
    · exact hnoted (keeps_waitingCollection id nofun)
    · exact hnoted (keeps_waitingCollection id hasDistinctKeys_empty)
    · exact hnoted (keeps_waitingCollection id nofun)
    · exact hnoted (keeps_scalar id _)

/-! ### Fields -/

/-- Each key stands once, and stands for the text that its field has as its key. -/
structure IsKeyed (fields : KeyedFields) : Prop where
  distinct : (fields.map (·.1)).Nodup
  keyed : ∀ field ∈ fields, ∀ text, field.2.1.text? = some text → field.1 = .text text

/-- There is no key among no fields. -/
theorem isKeyed_nil : IsKeyed [] :=
  ⟨List.nodup_nil, fun _ hfield => absurd hfield List.not_mem_nil⟩

/-- Fields whose keys are distinct as they are compared have distinct texts as keys. -/
theorem IsKeyed.hasDistinctKeys {fields : KeyedFields} (h : IsKeyed fields) :
    Fields.HasDistinctKeys (fields.map (·.2)) := by
  rw [Fields.HasDistinctKeys, List.filterMap_map, List.Nodup, List.pairwise_filterMap]
  refine (List.pairwise_map.mp h.distinct).imp_of_mem ?_
  rintro field other hfield hother hne text htext text' htext' rfl
  exact hne ((h.keyed field hfield text htext).trans (h.keyed other hother text htext').symm)

/-- An entry takes the place of the field with its key, or stands behind the others. -/
theorem map_fst_enter (key : Key) (source : Scalar) (value : Value) (fields : KeyedFields) :
    (enter key source value fields).map (·.1)
      = if key ∈ fields.map (·.1) then fields.map (·.1) else fields.map (·.1) ++ [key] := by
  induction fields with
  | nil => simp [enter]
  | cons field fields ih =>
    obtain ⟨other, field⟩ := field
    rw [enter]
    by_cases hkey : other = key
    · simp [hkey]
    · simp only [if_neg hkey, List.map_cons, ih, List.mem_cons, Ne.symm hkey, false_or]
      split <;> rfl

/-- A field behind an entry is that of the entry, or it has the key of a field that was there. -/
theorem mem_enter {key : Key} {source : Scalar} {value : Value} {fields : KeyedFields}
    {field : Key × Scalar × Value} (h : field ∈ enter key source value fields) :
    (field.1 = key ∧ field.2.1 = source) ∨
      ∃ old ∈ fields, field.1 = old.1 ∧ field.2.1 = old.2.1 := by
  induction fields with
  | nil =>
    obtain rfl := List.mem_singleton.mp h
    exact .inl ⟨rfl, rfl⟩
  | cons first fields ih =>
    obtain ⟨other, old⟩ := first
    rw [enter] at h
    -- A key that is known gets another value at its old place; a new one goes to the end.
    split at h
    · obtain rfl | h := List.mem_cons.mp h
      · exact .inr ⟨_, List.mem_cons_self, rfl, rfl⟩
      · exact .inr ⟨field, List.mem_cons_of_mem _ h, rfl, rfl⟩
    · obtain rfl | h := List.mem_cons.mp h
      · exact .inr ⟨_, List.mem_cons_self, rfl, rfl⟩
      · exact (ih h).imp_right fun ⟨old, hold, hsame⟩ => ⟨old, List.mem_cons_of_mem _ hold, hsame⟩

/-- An entry whose key is that of its source keeps every key single. -/
theorem IsKeyed.enter {fields : KeyedFields} (h : IsKeyed fields) {key : Key} {source : Scalar}
    (hkey : ∀ text, source.text? = some text → key = .text text) (value : Value) :
    IsKeyed (enter key source value fields) where
  distinct := by
    rw [map_fst_enter]
    split
    · exact h.distinct
    -- A new key goes to the end, behind keys that differ from it.
    · next hnew => exact List.nodup_append_comm.mp (List.nodup_cons.mpr ⟨hnew, h.distinct⟩)
  keyed := by
    intro field hfield text htext
    obtain ⟨hsame, hsource⟩ | ⟨old, hold, hsame, hsource⟩ := mem_enter hfield
    · rw [hsame]
      exact hkey text (hsource ▸ htext)
    · rw [hsame]
      exact h.keyed old hold text (hsource ▸ htext)

/-- Adding an entry of a mapping to the fields keeps every key single. -/
theorem yields_addEntry {fields : KeyedFields} (h : IsKeyed fields) (entry : NodeId × NodeId) :
    Yields IsKeyed (addEntry fields entry) := by
  refine (keeps_value entry.1).bind fun key _ => ?_
  cases key with
  | collection number => exact yields_throw .malformed
  | scalar key =>
    refine keeps_get.bind fun builder _ => (keeps_value entry.2).bind fun value _ => ?_
    -- Scalars that are texts are compared as texts, so fields with one text have one key.
    refine yields_pure (h.enter (fun text htext => ?_) value)
    obtain rfl := text?_scalar_eq_some_iff.mp htext
    rfl

/-- The fields that are read of a mapping have distinct keys. -/
theorem yields_fields (id : NodeId) : Yields Fields.HasDistinctKeys (fields id) := by
  refine keeps_get.bind fun builder _ => ?_
  split
  · exact yields_throw .malformed
  · refine Yields.bind (keeps_modify fun _ hkeys => hkeys) fun _ _ => ?_
    exact (Yields.foldlM (fun _ entry hfields => yields_addEntry hfields entry) isKeyed_nil).bind
      fun fields hfields => yields_pure hfields.hasDistinctKeys

/-- A pair is no mapping. -/
theorem keeps_pair (id : NodeId) : Keeps (pair id) := by
  refine (keeps_node id).bind fun node _ => ?_
  split
  · refine (keeps_value _).bind fun first _ => (keeps_value _).bind fun second _ => ?_
    have hpair : (Collection.pair first second).HasDistinctKeys := nofun
    exact (keeps_collection hpair).bind fun number _ => yields_pure trivial
  · exact yields_throw .malformed

/-! ### Documents -/

/-- Filling a collection keeps distinct keys: what fills a mapping has them. -/
theorem keeps_fill (id : NodeId) (number : Nat) : Keeps (fill id number) := by
  -- Only the fields of a mapping have to be looked at: what fills a list or pairs is no mapping.
  have hfilled {step : Build Collection} (hstep : Yields Collection.HasDistinctKeys step) :
      Keeps (do
        let content ← step
        modify fun builder =>
          { builder with collections := builder.collections.setIfInBounds number content }) := by
    refine hstep.bind fun content hcontent => keeps_modify fun builder hkeys found hfound => ?_
    rw [Array.toList_setIfInBounds] at hfound
    obtain hfound | rfl := List.mem_or_eq_of_mem_set hfound
    · exact hkeys found hfound
    · exact hcontent
  refine (keeps_node id).bind fun node _ => ?_
  dsimp only
  split
  · exact hfilled ((Keeps.mapM keeps_value _).map fun _ _ _ hsame => nomatch hsame)
  · exact hfilled ((Keeps.mapM keeps_pair _).map fun _ _ _ hsame => nomatch hsame)
  · exact hfilled ((yields_fields id).map fun fields hfields _ hsame =>
      Collection.mapping.inj hsame ▸ hfields)
  · exact hfilled ((yields_fields id).map fun _ _ _ hsame => nomatch hsame)
  · exact hfilled (yields_throw .malformed)

/-- Filling round after round keeps distinct keys. -/
theorem keeps_fillAll (fuel : Nat) : Keeps (fillAll fuel) := by
  induction fuel with
  | zero => exact yields_pure trivial
  | succ fuel ih =>
    refine keeps_get.bind fun builder _ => ?_
    split
    · exact yields_pure trivial
    · refine Yields.bind (keeps_modify fun _ hkeys => hkeys) fun _ _ => ?_
      refine Yields.bind (Keeps.forM ?_ _) fun _ _ => ih
      rintro ⟨id, number⟩
      exact keeps_fill id number

/-- The collections of a document are those of its builder. -/
theorem HasDistinctKeys.document {builder : Builder} (h : HasDistinctKeys builder) (root : Value) :
    Document.HasDistinctKeys { root, collections := builder.collections } := by
  intro value fields hfields
  cases value with
  | scalar scalar => cases hfields
  | collection number =>
    unfold Document.fields? at hfields
    split at hfields
    · next found hfound =>
      obtain rfl := Option.some.inj hfields
      exact h _ (Array.mem_toList_iff.mpr (Array.mem_of_getElem? hfound)) _ rfl
    · cases hfields

/-- A document that is built has distinct keys. -/
theorem yields_document (root : NodeId) : Yields Document.HasDistinctKeys (document root) := by
  refine (keeps_value root).bind fun root _ => keeps_get.bind fun _ _ => ?_
  refine (keeps_fillAll _).bind fun _ _ => ?_
  rintro builder result builder' hstep hkeys
  cases hstep
  exact ⟨hkeys.document root, hkeys⟩

end Build

/-- **Distinct keys.**  No mapping of a document that was read has two fields of one key. -/
theorem hasDistinctKeys_of_read {standIn : Char} {text : String} {document : Document}
    (h : Document.read standIn text = .ok document) : document.HasDistinctKeys := by
  unfold Document.read at h
  simp only [Except.bind_eq_ok_iff] at h
  obtain ⟨tokens, -, ⟨root?, store⟩, -, hdocument⟩ := h
  -- A text without a document is read as null, which has no mappings.
  cases root? with
  | none =>
    obtain rfl := Except.ok.inj hdocument
    exact (Build.hasDistinctKeys_start store #[]).document .null
  | some root =>
    obtain ⟨⟨built, builder⟩, hbuilt, hsame⟩ := Except.bind_eq_ok_iff.mp hdocument
    obtain rfl : built = document := Except.ok.inj hsame
    exact (Build.yields_document root _ _ _ hbuilt (Build.hasDistinctKeys_start store _)).1

end TypeExport.Yaml
