import TypeExport.Proofs.Catalog.Plain
import Mathlib.Data.List.Nodup

/-!
# Types behind others of their name

The search for a full name takes the first type that has it, with or without its arity.  So a type
can stand behind another one whose full name only becomes that name when its arity is left out.

* `Catalog.HasDistinctFullNames` — no two types have the same full name.
* `Catalog.IsShadowed` — an earlier type has a name as its full name without its arity.
* `Catalog.find?_eq_of_first` — the first type with a full name is found.
* `Catalog.find?_fullName_iff` — a type is found by its full name unless it is shadowed.
-/

namespace TypeExport

open Name (arityMark withoutArity)

/-- A name without its arity has no arity mark. -/
theorem Name.arityMark_notMem_withoutArity (name : String) :
    arityMark ∉ (withoutArity name).toList := by
  intro hmark
  rw [withoutArity, String.toList_ofList] at hmark
  simpa using List.mem_takeWhile_imp hmark

namespace Catalog

variable {catalog : Catalog} {name : String} {place : Nat} {entry : TypeEntry}

/-- No two types have the same full name. -/
def HasDistinctFullNames (catalog : Catalog) : Prop :=
  (catalog.graph.entries.map fun entry => entry.facts.fullName).Nodup

instance : Decidable catalog.HasDistinctFullNames :=
  inferInstanceAs (Decidable (List.Nodup _))

/-- A type before a place has the name as its full name without its arity. -/
def IsShadowed (catalog : Catalog) (name : String) (place : Nat) : Prop :=
  ∃ earlier < place, ∃ other, catalog.graph.entries[earlier]? = some other ∧
    withoutArity other.facts.fullName = name

/-- Distinct full names stand at distinct places. -/
theorem HasDistinctFullNames.place_eq (h : catalog.HasDistinctFullNames) {place' : Nat}
    {entry' : TypeEntry} (hentry : catalog.graph.entries[place]? = some entry)
    (hentry' : catalog.graph.entries[place']? = some entry')
    (hname : entry.facts.fullName = entry'.facts.fullName) : place = place' :=
  place_eq_of_nodup h hentry hentry' hname

/-! ### The first type with a full name -/

/-- The first type with a full name is found by it. -/
theorem find?_eq_of_first (hentry : catalog.graph.entries[place]? = some entry)
    (hname : isFullName name entry.facts = true)
    (hfirst : ∀ earlier < place, ∀ other, catalog.graph.entries[earlier]? = some other →
      isFullName name other.facts = false) :
    catalog.find? name = some place := by
  have hlt := (List.getElem?_eq_some_iff.mp hentry).1
  have hfind : (catalog.places.find? fun place => isFullName name (catalog.graph.factsAt place))
      = some place := by
    refine List.find?_range_eq_some.mpr ⟨?_, List.mem_range.mpr hlt, fun earlier hearlier => ?_⟩
    · rw [factsAt_of_getElem? hentry]
      exact hname
    · have hother := List.getElem?_eq_getElem (hearlier.trans hlt)
      rw [factsAt_of_getElem? hother, hfirst earlier hearlier _ hother]
      rfl
  rw [find?, hfind]

/-- If there is a type with a full name, the first one is no later. -/
theorem exists_first (name : String) (hentry : catalog.graph.entries[place]? = some entry)
    (hname : isFullName name entry.facts = true) :
    ∃ first ≤ place, ∃ other, catalog.graph.entries[first]? = some other ∧
      isFullName name other.facts = true ∧ catalog.find? name = some first := by
  -- By induction on the place: either nothing before it has the name, or something does.
  induction place using Nat.strongRecOn generalizing entry with
  | ind place ih =>
    by_cases hfirst : ∀ earlier < place, ∀ other, catalog.graph.entries[earlier]? = some other →
        isFullName name other.facts = false
    · exact ⟨place, le_rfl, entry, hentry, hname, find?_eq_of_first hentry hname hfirst⟩
    · push Not at hfirst
      obtain ⟨earlier, hearlier, other, hother, hothername⟩ := hfirst
      obtain ⟨first, hle, found⟩ := ih earlier hearlier hother (by simpa using hothername)
      exact ⟨first, hle.trans hearlier.le, found⟩

/-- Where no earlier type has the full name and none shadows it, no earlier type is found by it. -/
theorem isFullName_eq_false (hshadow : ¬ catalog.IsShadowed name place)
    (hdistinct : ∀ earlier < place, ∀ other, catalog.graph.entries[earlier]? = some other →
      other.facts.fullName ≠ name) :
    ∀ earlier < place, ∀ other, catalog.graph.entries[earlier]? = some other →
      isFullName name other.facts = false := by
  intro earlier hearlier other hother
  rw [isFullName, Bool.or_eq_false_iff, beq_eq_false_iff_ne, beq_eq_false_iff_ne]
  refine ⟨fun hname => hdistinct earlier hearlier other hother hname.symm, fun hname => ?_⟩
  exact hshadow ⟨earlier, hearlier, other, hother, hname.symm⟩

/-- A type is got exactly where it is found. -/
theorem get_eq_ok_iff : catalog.get name = .ok place ↔ catalog.find? name = some place := by
  unfold get
  cases catalog.find? name <;> simp

/-! ### Full names -/

/-- **Types by their full names.**  In a catalog whose types have distinct full names, a type is
found by its full name exactly if no type before it has that name without its arity.  Otherwise such
an earlier type is found in its place.  A type whose full name has an arity is always found. -/
theorem find?_fullName_iff (hdistinct : catalog.HasDistinctFullNames)
    (hentry : catalog.graph.entries[place]? = some entry) :
    (catalog.find? entry.facts.fullName = some place ↔
      ¬ catalog.IsShadowed entry.facts.fullName place) ∧
    (catalog.get entry.facts.fullName = .ok place ↔
      ¬ catalog.IsShadowed entry.facts.fullName place) ∧
    (catalog.IsShadowed entry.facts.fullName place →
      ∃ earlier < place, ∃ other, catalog.graph.entries[earlier]? = some other ∧
        withoutArity other.facts.fullName = entry.facts.fullName ∧
        catalog.find? entry.facts.fullName = some earlier ∧
        catalog.get entry.facts.fullName = .ok earlier) ∧
    (arityMark ∈ entry.facts.fullName.toList →
      ¬ catalog.IsShadowed entry.facts.fullName place) := by
  have hself : isFullName entry.facts.fullName entry.facts = true := by simp [isFullName]
  have hothers : ∀ earlier < place, ∀ other, catalog.graph.entries[earlier]? = some other →
      other.facts.fullName ≠ entry.facts.fullName := by
    intro earlier hearlier other hother hname
    exact hearlier.ne (hdistinct.place_eq hother hentry hname)
  -- An earlier type that is found has the name only without its arity.
  have hshadowed : catalog.IsShadowed entry.facts.fullName place →
      ∃ earlier < place, ∃ other, catalog.graph.entries[earlier]? = some other ∧
        withoutArity other.facts.fullName = entry.facts.fullName ∧
        catalog.find? entry.facts.fullName = some earlier := by
    rintro ⟨earlier, hearlier, other, hother, hname⟩
    obtain ⟨first, hle, found, hfound, hfull, hfind⟩ :=
      exists_first entry.facts.fullName hother (by simp [isFullName, hname])
    have hfirst := hle.trans_lt hearlier
    rw [isFullName, Bool.or_eq_true, beq_iff_eq, beq_iff_eq] at hfull
    exact ⟨first, hfirst, found, hfound,
      (hfull.resolve_left fun h => hothers first hfirst found hfound h.symm).symm, hfind⟩
  have hfind : catalog.find? entry.facts.fullName = some place ↔
      ¬ catalog.IsShadowed entry.facts.fullName place := by
    constructor
    · intro hfind hshadow
      obtain ⟨earlier, hearlier, -, -, -, hfind'⟩ := hshadowed hshadow
      exact hearlier.ne (Option.some.inj (hfind'.symm.trans hfind))
    · intro hshadow
      exact find?_eq_of_first hentry hself (isFullName_eq_false hshadow hothers)
  refine ⟨hfind, get_eq_ok_iff.trans hfind, fun hshadow => ?_, ?_⟩
  · obtain ⟨earlier, hearlier, other, hother, hname, hfind'⟩ := hshadowed hshadow
    exact ⟨earlier, hearlier, other, hother, hname, hfind', get_eq_ok_iff.mpr hfind'⟩
  · rintro hmark ⟨earlier, -, other, -, hname⟩
    rw [← hname] at hmark
    exact Name.arityMark_notMem_withoutArity _ hmark

/-- A generic type and a plain one that share a namespace and a simple name. -/
def pages : Catalog where
  graph.entries := [
    { facts := { name := "Page`1", space? := some "Rock.Model", parameters := ["T"] } },
    { facts := { name := "Page", space? := some "Rock.Model" } }]

/-- The plain page is looked up by its full name, and the generic one is found. -/
theorem find?_fullName_pages :
    pages.IsShadowed "Rock.Model.Page" 1 ∧
      (∃ earlier < 1, pages.find? "Rock.Model.Page" = some earlier ∧
        pages.get "Rock.Model.Page" = .ok earlier) ∧
      pages.find? "Rock.Model.Page`1" = some 0 ∧ pages.get "Rock.Model.Page`1" = .ok 0 := by
  have hdistinct : pages.HasDistinctFullNames := by decide +kernel
  have hshadow : pages.IsShadowed "Rock.Model.Page" 1 :=
    ⟨0, Nat.one_pos, _, rfl, by decide +kernel⟩
  have hplain : pages.graph.entries[1]? = some
      { facts := { name := "Page", space? := some "Rock.Model" } } := rfl
  obtain ⟨-, -, hearlier, -⟩ := find?_fullName_iff hdistinct hplain
  obtain ⟨earlier, hlt, -, -, -, hfind, hget⟩ := hearlier hshadow
  have hfirst : pages.graph.entries[0]? = some
      { facts := { name := "Page`1", space? := some "Rock.Model", parameters := ["T"] } } := rfl
  obtain ⟨hgeneric, hgenericGet, -, hmark⟩ := find?_fullName_iff hdistinct hfirst
  have hfree := hmark (by decide +kernel)
  exact ⟨hshadow, ⟨earlier, hlt, hfind, hget⟩, hgeneric.mpr hfree, hgenericGet.mpr hfree⟩

/-- A type is not always found by its full name. -/
theorem page_not_found :
    pages.HasDistinctFullNames ∧ ∃ entry, pages.graph.entries[1]? = some entry ∧
      pages.find? entry.facts.fullName ≠ some 1 ∧ pages.get entry.facts.fullName ≠ .ok 1 := by
  refine ⟨by decide +kernel, _, rfl, by decide +kernel, ?_⟩
  rw [ne_eq, get_eq_ok_iff]
  decide +kernel

end Catalog

end TypeExport
