import TypeExport.Proofs.Expression.Moved
import TypeExport.Proofs.Expression.Regular
import Mathlib.Data.List.Nodup

/-!
# Declared types in another order

A name in an expression finds the first declared type with that full name, or else the only one with
that simple name.  If no two declared types have the same full name without an arity, the order in
which the types are declared makes no difference: each name finds the same type, wherever it stands.

* `Catalog.HasDistinctNames` — no two types have the same full name without an arity.
* `Catalog.placeIn` — where the type at a place stands in another catalog.
* `Catalog.Rearranged` — the same types in another order.
* `Catalog.FoundAt`, `Catalog.find?_eq_some_iff` — what a name finds, whatever the order.
* `Catalog.Rearranged.movesTo` — expressions denote the same types.
-/

namespace TypeExport

open Name (arityMark withoutArity)
open Expression (IsDottedName Scope)

/-! ### Full names without an arity -/

namespace Catalog

/-- A name without an arity is a full name if it is the full name without its arity. -/
theorem isFullName_iff {name : String} (h : arityMark ∉ name.toList) (facts : TypeFacts) :
    isFullName name facts = true ↔ withoutArity facts.fullName = name := by
  simp only [isFullName, Bool.or_eq_true, beq_iff_eq]
  constructor
  · rintro (rfl | rfl)
    · exact Name.withoutArity_of_notMem h
    · rfl
  · exact fun hname => .inr hname.symm

/-- No two types have the same full name without an arity. -/
def HasDistinctNames (catalog : Catalog) : Prop :=
  (catalog.graph.entries.map fun entry => withoutArity entry.facts.fullName).Nodup

variable {catalog catalog' : Catalog}

/-- Names are a matter of the facts. -/
theorem HasDistinctNames.congr (h : catalog.HasDistinctNames)
    (hfacts : catalog.graph.entries.map (·.facts) = catalog'.graph.entries.map (·.facts)) :
    catalog'.HasDistinctNames := by
  have hnames (catalog : Catalog) :
      (catalog.graph.entries.map fun entry => withoutArity entry.facts.fullName)
        = (catalog.graph.entries.map (·.facts)).map fun facts => withoutArity facts.fullName := by
    rw [List.map_map]
    rfl
  unfold HasDistinctNames at h ⊢
  rw [hnames, ← hfacts, ← hnames]
  exact h

/-- Distinct names stand at distinct places. -/
theorem HasDistinctNames.place_eq (h : catalog.HasDistinctNames) {place place' : Nat}
    {entry entry' : TypeEntry} (hentry : catalog.graph.entries[place]? = some entry)
    (hentry' : catalog.graph.entries[place']? = some entry')
    (hname : withoutArity entry.facts.fullName = withoutArity entry'.facts.fullName) :
    place = place' :=
  place_eq_of_nodup h hentry hentry' hname

/-! ### What a name finds -/

/-- A name finds the type at a place: it is the full name of the type, or it is nobody's full name
and the simple name of that type alone. -/
def FoundAt (catalog : Catalog) (name : String) (place : Nat) : Prop :=
  ∃ entry, catalog.graph.entries[place]? = some entry ∧
    (withoutArity entry.facts.fullName = name ∨
      (∀ other ∈ catalog.graph.entries, withoutArity other.facts.fullName ≠ name) ∧
        isSimpleName name entry.facts = true ∧
        ∀ place' other, catalog.graph.entries[place']? = some other →
          isSimpleName name other.facts = true → place' = place)

/-- A place of a catalog has an entry. -/
theorem mem_places_iff {place : Nat} :
    place ∈ catalog.places ↔ ∃ entry, catalog.graph.entries[place]? = some entry := by
  rw [places, List.mem_range]
  constructor
  · exact fun hlt => ⟨_, List.getElem?_eq_getElem hlt⟩
  · exact fun ⟨_, hentry⟩ => (List.getElem?_eq_some_iff.mp hentry).1

/-- The places whose types have a name are a single one if just one type has the name. -/
theorem filter_places_eq_singleton_iff {holds : TypeFacts → Bool} {place : Nat} :
    (catalog.places.filter fun place => holds (catalog.graph.factsAt place)) = [place] ↔
      ∃ entry, catalog.graph.entries[place]? = some entry ∧ holds entry.facts = true ∧
        ∀ place' other, catalog.graph.entries[place']? = some other →
          holds other.facts = true → place' = place := by
  have hnodup : (catalog.places.filter fun place => holds (catalog.graph.factsAt place)).Nodup :=
    List.nodup_range.filter _
  have hmem (other : Nat) :
      other ∈ (catalog.places.filter fun place => holds (catalog.graph.factsAt place)) ↔
        ∃ entry, catalog.graph.entries[other]? = some entry ∧ holds entry.facts = true := by
    rw [List.mem_filter, mem_places_iff]
    constructor
    · rintro ⟨⟨entry, hentry⟩, hholds⟩
      exact ⟨entry, hentry, factsAt_of_getElem? hentry ▸ hholds⟩
    · rintro ⟨entry, hentry, hholds⟩
      exact ⟨⟨entry, hentry⟩, (factsAt_of_getElem? hentry).symm ▸ hholds⟩
  -- No place comes twice, so it is enough to compare members.
  rw [← List.perm_singleton, List.perm_ext_iff_of_nodup hnodup (List.nodup_singleton place)]
  simp only [hmem, List.mem_singleton]
  constructor
  · intro h
    obtain ⟨entry, hentry, hholds⟩ := (h place).mpr rfl
    exact ⟨entry, hentry, hholds, fun place' other hother hname =>
      (h place').mp ⟨other, hother, hname⟩⟩
  · rintro ⟨entry, hentry, hholds, hunique⟩ place'
    constructor
    · rintro ⟨other, hother, hname⟩
      exact hunique place' other hother hname
    · rintro rfl
      exact ⟨entry, hentry, hholds⟩

/-- **What a name finds** does not depend on the order of the types. -/
theorem find?_eq_some_iff (hdistinct : catalog.HasDistinctNames) {name : String}
    (hname : arityMark ∉ name.toList) {place : Nat} :
    catalog.find? name = some place ↔ catalog.FoundAt name place := by
  unfold find?
  cases hfull : catalog.places.find? fun place => isFullName name (catalog.graph.factsAt place) with
  | some found =>
    -- A full name comes first, and it is that of one type only.
    obtain ⟨entry, hentry⟩ := mem_places_iff.mp (List.mem_of_find?_eq_some hfull)
    have hfound := List.find?_some hfull
    rw [factsAt_of_getElem? hentry, isFullName_iff hname] at hfound
    dsimp only
    constructor
    · intro h
      obtain rfl := Option.some.inj h
      exact ⟨entry, hentry, .inl hfound⟩
    · rintro ⟨other, hother, hsame | ⟨hnobody, -, -⟩⟩
      · rw [hdistinct.place_eq hentry hother (hfound.trans hsame.symm)]
      · exact absurd hfound (hnobody entry (List.mem_of_getElem? hentry))
  | none =>
    -- The name is nobody's full name, so the simple names decide.
    have hnobody : ∀ other ∈ catalog.graph.entries, withoutArity other.facts.fullName ≠ name := by
      intro other hother hsame
      obtain ⟨place', hplace'⟩ := List.mem_iff_getElem?.mp hother
      have hno := List.find?_eq_none.mp hfull place' (mem_places_iff.mpr ⟨other, hplace'⟩)
      rw [factsAt_of_getElem? hplace', isFullName_iff hname] at hno
      exact hno hsame
    dsimp only
    constructor
    · intro h
      split at h
      · next single hsingle =>
        obtain rfl := Option.some.inj h
        obtain ⟨entry, hentry, hsimple, hunique⟩ := filter_places_eq_singleton_iff.mp hsingle
        exact ⟨entry, hentry, .inr ⟨hnobody, hsimple, hunique⟩⟩
      · cases h
    · rintro ⟨entry, hentry, hsame | ⟨-, hsimple, hunique⟩⟩
      · exact absurd hsame (hnobody entry (List.mem_of_getElem? hentry))
      · rw [filter_places_eq_singleton_iff.mpr ⟨entry, hentry, hsimple, hunique⟩]

/-! ### The same types in another order -/

/-- The place in another catalog of the type with the same full name. -/
def placeIn (catalog catalog' : Catalog) (place : Nat) : Nat :=
  catalog'.graph.entries.findIdx fun entry =>
    entry.facts.fullName == (catalog.graph.factsAt place).fullName

/-- Places are found by the facts alone. -/
theorem placeIn_congr {other other' : Catalog}
    (h : catalog.graph.entries.map (·.facts) = other.graph.entries.map (·.facts))
    (h' : catalog'.graph.entries.map (·.facts) = other'.graph.entries.map (·.facts)) :
    catalog.placeIn catalog' = other.placeIn other' := by
  -- A place is looked up by facts alone, on both sides.
  have hfacts (catalog : Catalog) (place : Nat) : catalog.graph.factsAt place
      = ((catalog.graph.entries.map (·.facts))[place]?).getD { name := "" } := by
    unfold TypeGraph.factsAt
    rw [List.getElem?_map]
    cases catalog.graph.entries[place]? <;> rfl
  have hindex (catalog : Catalog) (name : String) :
      (catalog.graph.entries.findIdx fun entry => entry.facts.fullName == name)
        = (catalog.graph.entries.map (·.facts)).findIdx fun facts => facts.fullName == name := by
    rw [List.findIdx_map]
    rfl
  funext place
  unfold placeIn
  rw [hindex, hindex, h', hfacts, hfacts, h]

/-- The catalogs declare the same types, which have distinct names, perhaps in another order. -/
structure Rearranged (catalog catalog' : Catalog) : Prop where
  perm : catalog.graph.entries.Perm catalog'.graph.entries
  distinct : catalog.HasDistinctNames

namespace Rearranged

/-- Rearranging goes both ways. -/
theorem symm (h : catalog.Rearranged catalog') : catalog'.Rearranged catalog where
  perm := h.perm.symm
  distinct := (h.perm.map _).nodup h.distinct

/-- The type stands at the place that its full name leads to. -/
theorem getElem?_placeIn (h : catalog.Rearranged catalog') {place : Nat} {entry : TypeEntry}
    (hentry : catalog.graph.entries[place]? = some entry) :
    catalog'.graph.entries[catalog.placeIn catalog' place]? = some entry := by
  have hmem := h.perm.mem_iff.mp (List.mem_of_getElem? hentry)
  have hlt : catalog.placeIn catalog' place < catalog'.graph.entries.length := by
    refine List.findIdx_lt_length_of_exists ⟨entry, hmem, ?_⟩
    rw [factsAt_of_getElem? hentry]
    exact beq_self_eq_true _
  have hthere := List.getElem?_eq_getElem hlt
  have hname : catalog'.graph.entries[catalog.placeIn catalog' place].facts.fullName
      = entry.facts.fullName := by
    have hfound := beq_iff_eq.mp (List.findIdx_getElem (w := hlt))
    exact hfound.trans (congrArg TypeFacts.fullName (factsAt_of_getElem? hentry))
  -- The names leave no other type that might stand there.
  obtain ⟨place', hplace'⟩ := List.mem_iff_getElem?.mp hmem
  have hsame := h.symm.distinct.place_eq hthere hplace' (congrArg withoutArity hname)
  rw [hsame, hplace']

/-- A name that is found at a place is found where the type stands in the other catalog. -/
theorem foundAt (h : catalog.Rearranged catalog') {name : String} {place : Nat}
    (hfound : catalog.FoundAt name place) :
    catalog'.FoundAt name (catalog.placeIn catalog' place) := by
  obtain ⟨entry, hentry, hname⟩ := hfound
  have hmoved := h.getElem?_placeIn hentry
  refine ⟨entry, hmoved, hname.imp_right fun ⟨hnobody, hsimple, hunique⟩ => ?_⟩
  refine ⟨fun other hother => hnobody other (h.perm.mem_iff.mpr hother), hsimple, ?_⟩
  intro place' other hother hotherSimple
  -- The other type stands somewhere in the first catalog, where there is just one of that name.
  obtain ⟨origin, horigin⟩ :=
    List.mem_iff_getElem?.mp (h.perm.mem_iff.mpr (List.mem_of_getElem? hother))
  obtain rfl := hunique origin other horigin hotherSimple
  obtain rfl : entry = other := Option.some.inj (hentry.symm.trans horigin)
  exact h.symm.distinct.place_eq hother hmoved rfl

/-- A name finds the same type. -/
theorem find?_eq (h : catalog.Rearranged catalog') {name : String}
    (hname : arityMark ∉ name.toList) :
    catalog'.find? name = (catalog.find? name).map (catalog.placeIn catalog') := by
  cases hfind : catalog.find? name with
  | some place =>
    have hfound := (find?_eq_some_iff h.distinct hname).mp hfind
    exact (find?_eq_some_iff h.symm.distinct hname).mpr (h.foundAt hfound)
  | none =>
    -- A type found in the other catalog only would be found here as well, by going back.
    cases hfind' : catalog'.find? name with
    | none => rfl
    | some place' =>
      have hfound' := (find?_eq_some_iff h.symm.distinct hname).mp hfind'
      have hfind'' := (find?_eq_some_iff h.distinct hname).mpr (h.symm.foundAt hfound')
      cases hfind.symm.trans hfind''

/-- **Expressions** denote the same types over both catalogs. -/
theorem movesTo (h : catalog.Rearranged catalog') (parameters : List String)
    (settings : Settings) :
    Scope.MovesTo (catalog.placeIn catalog') { catalog, parameters, settings }
      { catalog := catalog', parameters, settings } where
  parameters := rfl
  settings := rfl
  find name hname := h.find?_eq hname.arityMark_notMem
  facts name place hfind := by
    obtain ⟨entry, hentry, -⟩ := find?_eq_some hfind
    exact (factsAt_of_getElem? (h.getElem?_placeIn hentry)).trans (factsAt_of_getElem? hentry).symm

end Rearranged

end Catalog

end TypeExport
