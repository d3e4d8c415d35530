import TypeExport.Catalog.Read
import TypeExport.Proofs.Catalog.Plain

/-!
# What is read as a catalog

Reading declares all types first and then gives each its members, whose types are denoted by
expressions over the declared types.

* `isPlain_of_declare` — what is declared is plain.
* `fillMembers_eq_ok` — members are added, and nothing else changes.
* `ReadFrom`, `readFrom_of_ofDocument` — how a catalog goes back to the declared types.
* `exists_ofDocument_of_read` — a catalog that was read from a text is that of a document.
-/

namespace TypeExport.Catalog

open Yaml (Document Value Fields)

/-! ### Declared types -/

/-- An entry that is declared is plain. -/
theorem isPlain_of_declare {document : Document} {name : String} {fields : Fields}
    {entry : TypeEntry} (h : declare document name fields = .ok entry) : entry.IsPlain := by
  simp only [declare, Except.bind_eq_ok_iff] at h
  obtain ⟨parameters, -, space?, -, isEnum, -, interfaces, -, markers, -, hentry⟩ := h
  obtain rfl := Except.ok.inj hentry
  refine ⟨rfl, rfl, rfl, fun hparameters => ?_⟩
  have hne : parameters.isEmpty = false := by simpa using hparameters
  simp [arityName, hne]

/-! ### Members -/

variable {document : Document} {settings : Settings}

/-- Reading a part plainly gives the same value. -/
theorem plain_eq_ok_iff {α : Type} {read : SchemaRead α} {value : α} :
    plain read = .ok value ↔ read = .ok value :=
  Except.mapError_eq_ok_iff

/-- The type of a property is denoted by an expression. -/
theorem readProperty_eq_ok {scope : Expression.Scope} {typeName : String} {fields : Fields}
    {property : Property} (h : readProperty document scope typeName fields = .ok property) :
    ∃ expression, scope.parse expression = .ok property.type := by
  simp only [readProperty, Except.bind_eq_ok_iff, Except.mapError_eq_ok_iff] at h
  obtain ⟨-, -, name, -, expression, -, isRequired?, -, type, htype, markers, -, hproperty⟩ := h
  obtain rfl := Except.ok.inj hproperty
  exact ⟨expression, htype⟩

/-- The types of the properties of an entry are denoted by expressions over the declared types. -/
def HasDenotedTypes (declared : Catalog) (settings : Settings) (entry : TypeEntry) : Prop :=
  ∀ property ∈ entry.properties, ∃ expression,
    Expression.Scope.parse
      { catalog := declared, parameters := entry.facts.parameters, settings } expression
        = .ok property.type

/-- Filling in members keeps everything else. -/
theorem fillMembers_eq_ok {declared : Catalog} {entry filled : TypeEntry} {name : String}
    {fields : Fields} (h : fillMembers document declared settings entry name fields = .ok filled) :
    filled.facts = entry.facts ∧ (entry.IsPlain → filled.IsPlain) ∧
      HasDenotedTypes declared settings filled := by
  simp only [fillMembers, Except.bind_eq_ok_iff] at h
  obtain ⟨raw, -, properties, hproperties, members, -, hfilled⟩ := h
  obtain rfl := Except.ok.inj hfilled
  refine ⟨rfl, fun hplain => ?_, fun property hproperty => ?_⟩
  · exact ⟨hplain.definition, hplain.element, hplain.arguments, hplain.arity⟩
  · obtain ⟨fields, -, hread⟩ := (Except.mem_of_mapM_eq_ok hproperties property).mp hproperty
    exact readProperty_eq_ok hread

/-! ### Documents -/

/-- The catalog is plain, has the facts of the declared types and properties whose types are denoted
over them. -/
structure ReadFrom (catalog declared : Catalog) (settings : Settings) : Prop where
  declared_isPlain : declared.IsPlain
  isPlain : catalog.IsPlain
  facts : catalog.graph.entries.map (·.facts) = declared.graph.entries.map (·.facts)
  denoted : ∀ entry ∈ catalog.graph.entries, HasDenotedTypes declared settings entry

/-- **The catalog of a document** is plain, and its property types are denoted over the declared
types. -/
theorem readFrom_of_ofDocument {catalog : Catalog}
    (h : ofDocument settings document = .ok catalog) :
    ∃ declared, catalog.ReadFrom declared settings := by
  unfold ofDocument at h
  split at h
  · obtain rfl := Except.ok.inj h
    exact ⟨{}, nofun, nofun, rfl, nofun⟩
  -- Types are declared first; their members come afterwards and leave the facts as they are.
  · simp only [Except.bind_eq_ok_iff, plain_eq_ok_iff] at h
    obtain ⟨raw, -, entries, hentries, filled, hfilled, hcatalog⟩ := h
    obtain rfl := Except.ok.inj hcatalog
    have hplain : ∀ entry ∈ entries, entry.IsPlain := by
      intro entry hentry
      obtain ⟨⟨name, fields⟩, -, hdeclare⟩ := (Except.mem_of_mapM_eq_ok hentries entry).mp hentry
      exact isPlain_of_declare hdeclare
    have hfill : ∀ entry ∈ filled, entry.IsPlain ∧ HasDenotedTypes ⟨⟨entries⟩⟩ settings entry := by
      intro entry hentry
      obtain ⟨⟨bare, name, fields⟩, hmem, hfill⟩ :=
        (Except.mem_of_mapM_eq_ok hfilled entry).mp hentry
      obtain ⟨-, hkeep, hdenoted⟩ := fillMembers_eq_ok hfill
      exact ⟨hkeep (hplain bare (List.of_mem_zip hmem).1), hdenoted⟩
    have hfacts : filled.map (·.facts) = entries.map (·.facts) := by
      have hlength : raw.length = entries.length :=
        (Except.mapM_eq_ok_iff.mp hentries).length_eq
      calc filled.map (·.facts) = (entries.zip raw).map fun source => source.1.facts :=
            Except.map_eq_of_mapM_eq_ok hfilled fun _ _ h => (fillMembers_eq_ok h).1
        _ = ((entries.zip raw).map (·.1)).map (·.facts) := by rw [List.map_map]; rfl
        _ = entries.map (·.facts) := by rw [List.map_fst_zip hlength.ge]
    exact ⟨⟨⟨entries⟩⟩, hplain, fun entry hentry => (hfill entry hentry).1, hfacts,
      fun entry hentry => (hfill entry hentry).2⟩

/-- What is read from a text is the catalog of its document. -/
theorem exists_ofDocument_of_read {label text : String} {standIn : Char} {catalog : Catalog}
    (h : read settings label text standIn = .ok catalog) :
    ∃ document, Document.read standIn text = .ok document ∧
      ofDocument settings document = .ok catalog := by
  unfold read at h
  split at h
  · cases h
  · cases h
  · next found hfound => exact ⟨found, hfound, Except.mapError_eq_ok_iff.mp h⟩

end TypeExport.Catalog
