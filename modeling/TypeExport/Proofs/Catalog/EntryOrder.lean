import TypeExport.Proofs.Catalog.Members

/-!
# The order of entries

A catalog means the same whatever the order of its entries: each entry declares its type on its own,
and the names in the types of the members find the same types wherever these stand.

* `Catalog.declareWith`, `Catalog.ofDocument_eq_ok_iff` — the steps in which a document is read.
* `Catalog.HasDistinctTypes` — no two declared types have the same full name without an arity.
* `Catalog.SameTypes` — the same types at the places that their full names lead to.
* `Catalog.Reordering.declared`, `Catalog.Reordering.ofDocument` — what each step keeps.
* `Catalog.read_in_any_order` — the order does not matter.
-/

namespace TypeExport

open Yaml (Document Value Fields)

namespace Catalog

/-! ### Documents -/

variable {same : Value → Value → Prop} {document document' : Document} {settings : Settings}
  {catalog catalog' : Catalog}

/-- An entry together with the type that it declares. -/
def declareWith (document : Document) (raw : String × Fields) :
    SchemaRead (TypeEntry × (String × Fields)) :=
  (declare document raw.1 raw.2).map fun entry => (entry, raw)

/-- The type that an entry declares, with its members. -/
def fillDeclared (document : Document) (declared : Catalog) (settings : Settings)
    (pair : TypeEntry × (String × Fields)) : MemberRead TypeEntry :=
  fillMembers document declared settings pair.1 pair.2.1 pair.2.2

/-- An entry is declared together with what it was read from. -/
theorem declareWith_eq_ok_iff {raw : String × Fields} {pair : TypeEntry × (String × Fields)} :
    declareWith document raw = .ok pair ↔
      declare document raw.1 raw.2 = .ok pair.1 ∧ pair.2 = raw := by
  unfold declareWith
  rw [Except.map_eq_ok_iff]
  constructor
  · rintro ⟨entry, hentry, rfl⟩
    exact ⟨hentry, rfl⟩
  · rintro ⟨hentry, rfl⟩
    exact ⟨pair.1, hentry, rfl⟩

/-- The types that the entries of a document declare. -/
def typesDeclared (document : Document) (raw : List (String × Fields)) :
    SchemaRead (List TypeEntry) :=
  raw.mapM fun (name, fields) => declare document name fields

/-- Entries are declared together with what they were read from. -/
theorem mapM_declareWith_eq_ok_iff {raw : List (String × Fields)}
    {pairs : List (TypeEntry × (String × Fields))} :
    raw.mapM (declareWith document) = .ok pairs ↔
      typesDeclared document raw = .ok (pairs.map (·.1)) ∧ pairs.map (·.2) = raw := by
  unfold typesDeclared
  rw [Except.mapM_eq_ok_iff, Except.mapM_eq_ok_iff]
  constructor
  · intro h
    -- Each pair keeps what it was declared from, so the raw entries can be read off the pairs.
    have hraw : List.Forall₂ (fun raw pair => raw = pair.2) raw pairs :=
      h.imp fun _ _ hpair => (declareWith_eq_ok_iff.mp hpair).2.symm
    rw [← List.forall₂_map_right_iff, List.forall₂_eq_eq_eq] at hraw
    have hentries := h.imp fun _ _ hpair => (declareWith_eq_ok_iff.mp hpair).1
    exact ⟨List.forall₂_map_right_iff.mpr hentries, hraw.symm⟩
  · rintro ⟨h, rfl⟩
    rw [List.forall₂_map_left_iff, List.forall₂_map_right_iff, List.forall₂_same] at h
    rw [List.forall₂_map_left_iff, List.forall₂_same]
    exact fun pair hpair => declareWith_eq_ok_iff.mpr ⟨h pair hpair, rfl⟩

/-- Declared entries stand beside what they were read from. -/
theorem mapM_declareWith_zip {raw : List (String × Fields)} {entries : List TypeEntry}
    (h : typesDeclared document raw = .ok entries) :
    raw.mapM (declareWith document) = .ok (entries.zip raw) ∧
      (entries.zip raw).map (·.1) = entries := by
  have hlength : raw.length = entries.length := (Except.mapM_eq_ok_iff.mp h).length_eq
  have hfst : (entries.zip raw).map (·.1) = entries := List.map_fst_zip hlength.ge
  refine ⟨mapM_declareWith_eq_ok_iff.mpr ⟨?_, List.map_snd_zip hlength.le⟩, hfst⟩
  rw [hfst, h]

/-- A catalog is read by declaring its entries first and filling in their members afterwards. -/
theorem ofDocument_eq_ok_iff (hroot : document.root.isNull = false) :
    ofDocument settings document = .ok catalog ↔
      ∃ raw pairs filled, documentEntries document = .ok raw ∧
        raw.mapM (declareWith document) = .ok pairs ∧
        pairs.mapM (fillDeclared document ⟨⟨pairs.map (·.1)⟩⟩ settings) = .ok filled ∧
        ⟨⟨filled⟩⟩ = catalog := by
  unfold ofDocument
  rw [hroot, if_neg Bool.false_ne_true]
  simp only [Except.bind_eq_ok_iff, plain_eq_ok_iff]
  constructor
  · rintro ⟨raw, hraw, entries, hentries, filled, hfilled, hcatalog⟩
    -- The entries are zipped with what they were declared from; declaring with it does both at
    -- once.
    obtain ⟨hpairs, hfst⟩ := mapM_declareWith_zip hentries
    refine ⟨raw, entries.zip raw, filled, hraw, hpairs, ?_, Except.ok.inj hcatalog⟩
    rw [hfst]
    exact hfilled
  · rintro ⟨raw, pairs, filled, hraw, hpairs, hfilled, rfl⟩
    obtain ⟨hentries, rfl⟩ := mapM_declareWith_eq_ok_iff.mp hpairs
    have hzip : (pairs.map (·.1)).zip (pairs.map (·.2)) = pairs := by
      rw [List.zip_map']
      exact List.map_id pairs
    refine ⟨pairs.map (·.2), hraw, pairs.map (·.1), ?_, filled, ?_, rfl⟩
    · exact hentries
    · rw [hzip]
      exact hfilled

/-- The types that a document declares have distinct full names without an arity. -/
def HasDistinctTypes (document : Document) : Prop :=
  ∀ raw entries, documentEntries document = .ok raw → typesDeclared document raw = .ok entries →
    HasDistinctNames ⟨⟨entries⟩⟩

/-- The catalogs have the same types with the same members, at the places that their full names lead
to, and every reference to a declared type is one to the type with the same full name. -/
structure SameTypes (catalog catalog' : Catalog) : Prop where
  perm : catalog'.graph.entries.Perm
    (catalog.graph.entries.map (TypeEntry.moved (catalog.placeIn catalog')))
  entry (place : Nat) (entry : TypeEntry) : catalog.graph.entries[place]? = some entry →
    catalog'.graph.entries[catalog.placeIn catalog' place]?
      = some (entry.moved (catalog.placeIn catalog'))

/-- Moving places changes no facts. -/
theorem map_facts_moved (move : Nat → Nat) (entries : List TypeEntry) :
    (entries.map (TypeEntry.moved move)).map (·.facts) = entries.map (·.facts) := by
  rw [List.map_map]
  rfl

/-- Distinct names lead to the types. -/
theorem sameTypes_of_perm (hdistinct : catalog.HasDistinctNames)
    (hperm : catalog'.graph.entries.Perm
      (catalog.graph.entries.map (TypeEntry.moved (catalog.placeIn catalog')))) :
    catalog.SameTypes catalog' where
  perm := hperm
  entry place entry hentry := by
    let moved : Catalog :=
      ⟨⟨catalog.graph.entries.map (TypeEntry.moved (catalog.placeIn catalog'))⟩⟩
    have hfacts : moved.graph.entries.map (·.facts) = catalog.graph.entries.map (·.facts) :=
      map_facts_moved _ _
    have hrearranged : moved.Rearranged catalog' := ⟨hperm.symm, hdistinct.congr hfacts.symm⟩
    have hmoved : moved.graph.entries[place]? = some (entry.moved (catalog.placeIn catalog')) := by
      rw [List.getElem?_map, hentry, Option.map_some]
    rw [← hrearranged.getElem?_placeIn hmoved, placeIn_congr hfacts rfl]

/-- Entries that are the same and declare the same plain type. -/
structure SamePair (same : Value → Value → Prop) (pair pair' : TypeEntry × (String × Fields)) :
    Prop where
  type : pair.1 = pair'.1
  isPlain : pair.1.IsPlain
  entry : SameEntry same pair.2 pair'.2

/-- Entries that are read alike, in another order, are the same up to it. -/
theorem perm_of_samePair {pairs between pairs' : List (TypeEntry × (String × Fields))}
    (hperm : pairs.Perm between) (hsame : List.Forall₂ (SamePair same) between pairs') :
    (pairs.map (·.1)).Perm (pairs'.map (·.1)) := by
  have hfst : between.map (·.1) = pairs'.map (·.1) := by
    rw [← List.forall₂_eq_eq_eq, List.forall₂_map_left_iff, List.forall₂_map_right_iff]
    exact hsame.imp fun _ _ hpair => hpair.type
  rw [← hfst]
  exact hperm.map _

/-- **Declared types.** The documents declare the same types. -/
theorem Reordering.declared (h : Reordering same document document')
    {raw : List (String × Fields)} {pairs : List (TypeEntry × (String × Fields))}
    (hraw : Catalog.documentEntries document = .ok raw)
    (hpairs : raw.mapM (declareWith document) = .ok pairs) :
    ∃ raw' between pairs', Catalog.documentEntries document' = .ok raw' ∧
      raw'.mapM (declareWith document') = .ok pairs' ∧ pairs.Perm between ∧
      List.Forall₂ (SamePair same) between pairs' := by
  have hentries := hasEntries_of_documentEntries hraw
  obtain ⟨rawBetween, raw', hraw', hperm, hsame⟩ := h.documentEntries hraw
  -- First the items are permuted, then each one is exchanged for the one that says the same.
  obtain ⟨between, hbetween, hpermPairs⟩ := Except.exists_mapM_eq_ok_of_perm hperm hpairs
  have hstep (entry entry' : String × Fields) (pair : TypeEntry × (String × Fields))
      (hsame : SameEntry same entry entry') (hpair : declareWith document entry = .ok pair) :
      ∃ pair', declareWith document' entry' = .ok pair' ∧ SamePair same pair pair' := by
    obtain ⟨hdeclare, rfl⟩ := declareWith_eq_ok_iff.mp hpair
    have hdeclare' := h.declare hentries hsame.2 hdeclare
    rw [hsame.1] at hdeclare'
    exact ⟨(pair.1, entry'), declareWith_eq_ok_iff.mpr ⟨hdeclare', rfl⟩,
      rfl, isPlain_of_declare hdeclare, hsame⟩
  obtain ⟨pairs', hpairs', hsamePairs⟩ :=
    Except.exists_mapM_eq_ok_of_forall₂ hsame hstep hbetween
  exact ⟨raw', between, pairs', hraw', hpairs', hpermPairs, hsamePairs⟩

/-- Filling in members changes no facts. -/
theorem map_facts_of_fillDeclared {declared : Catalog}
    {pairs : List (TypeEntry × (String × Fields))} {filled : List TypeEntry}
    (h : pairs.mapM (fillDeclared document declared settings) = .ok filled) :
    filled.map (·.facts) = (pairs.map (·.1)).map (·.facts) := by
  rw [List.map_map]
  exact Except.map_eq_of_mapM_eq_ok h fun _ _ hfilled => (fillMembers_eq_ok hfilled).1

/-- **Catalogs.** Where one document is accepted the other one is, with the same types. -/
theorem Reordering.ofDocument (h : Reordering same document document')
    (hdistinct : HasDistinctTypes document)
    (hcatalog : Catalog.ofDocument settings document = .ok catalog) :
    ∃ catalog', Catalog.ofDocument settings document' = .ok catalog' ∧
      catalog.SameTypes catalog' := by
  have hnull : document.root.isNull = document'.root.isNull :=
    readsScalars_isNull.eq (h.scalar h.root)
  cases hroot : document.root.isNull with
  | true =>
    unfold Catalog.ofDocument at hcatalog ⊢
    rw [if_pos hroot] at hcatalog
    rw [if_pos (hnull ▸ hroot)]
    obtain rfl := Except.ok.inj hcatalog
    exact ⟨{}, rfl, .refl _, nofun⟩
  | false =>
    obtain ⟨raw, pairs, filled, hraw, hpairs, hfilled, rfl⟩ :=
      (ofDocument_eq_ok_iff hroot).mp hcatalog
    obtain ⟨raw', between, pairs', hraw', hpairs', hperm, hsame⟩ := h.declared hraw hpairs
    have hentries := hasEntries_of_documentEntries hraw
    let declared : Catalog := ⟨⟨pairs.map (·.1)⟩⟩
    let declared' : Catalog := ⟨⟨pairs'.map (·.1)⟩⟩
    have hrearranged : declared.Rearranged declared' := ⟨perm_of_samePair hperm hsame,
      hdistinct raw _ hraw (mapM_declareWith_eq_ok_iff.mp hpairs).1⟩
    -- The members are read in the same order first, and then from the other document.
    obtain ⟨filledBetween, hfilledBetween, hpermFilled⟩ :=
      Except.exists_mapM_eq_ok_of_perm hperm hfilled
    have hstep (pair pair' : TypeEntry × (String × Fields)) (filled : TypeEntry)
        (hpair : SamePair same pair pair')
        (hfilled : fillDeclared document declared settings pair = .ok filled) :
        ∃ filled', fillDeclared document' declared' settings pair' = .ok filled' ∧
          filled.moved (declared.placeIn declared') = filled' := by
      refine ⟨_, ?_, rfl⟩
      unfold fillDeclared
      rw [← hpair.type, ← hpair.entry.1]
      exact h.fillMembers hentries hrearranged hpair.entry.2 hpair.isPlain hfilled
    obtain ⟨filled', hfilled', hsameFilled⟩ :=
      Except.exists_mapM_eq_ok_of_forall₂ hsame hstep hfilledBetween
    rw [← List.forall₂_map_left_iff, List.forall₂_eq_eq_eq] at hsameFilled
    have hfacts := map_facts_of_fillDeclared hfilled
    have hfacts' := map_facts_of_fillDeclared hfilled'
    refine ⟨⟨⟨filled'⟩⟩, (ofDocument_eq_ok_iff (hnull ▸ hroot)).mpr
      ⟨raw', pairs', filled', hraw', hpairs', hfilled', rfl⟩, ?_⟩
    have hplaces : Catalog.placeIn ⟨⟨filled⟩⟩ ⟨⟨filled'⟩⟩ = declared.placeIn declared' :=
      placeIn_congr hfacts hfacts'
    refine sameTypes_of_perm (hrearranged.distinct.congr hfacts.symm) ?_
    rw [hplaces]
    show filled'.Perm (filled.map (TypeEntry.moved (declared.placeIn declared')))
    rw [← hsameFilled]
    exact (hpermFilled.map _).symm

/-- The other document declares types with distinct names, too. -/
theorem Reordering.hasDistinctTypes (h : Reordering same document document')
    (hdistinct : HasDistinctTypes document) : HasDistinctTypes document' := by
  intro raw' entries' hraw' hentries'
  obtain ⟨hpairs', hfst⟩ := mapM_declareWith_zip hentries'
  obtain ⟨raw, between, pairs, hraw, hpairs, hperm, hsame⟩ := h.symm.declared hraw' hpairs'
  have hnames := hdistinct raw _ hraw (mapM_declareWith_eq_ok_iff.mp hpairs).1
  have hentries := perm_of_samePair hperm hsame
  rw [hfst] at hentries
  exact (hentries.map _).symm.nodup hnames

/-! ### A document in two orders -/

/-- An order with its buyers, and customers behind it. -/
def shop : Document where
  root := .collection 0
  collections := #[
    .mapping [(.text "types", .collection 1)],
    .list [.collection 2, .collection 3],
    .mapping [(.text "name", .scalar (.text "Order")), (.text "properties", .collection 4)],
    .mapping [(.text "name", .scalar (.text "Customer")),
      (.text "namespace", .scalar (.text "Shop"))],
    .list [.collection 5],
    .mapping [(.text "name", .scalar (.text "Buyers")),
      (.text "type", .scalar (.text "Customer[]"))]]

/-- The document with its two entries exchanged is a reordering. -/
theorem reordering_shop :
    Reordering Eq shop (withItems shop 1 [.collection 3, .collection 2]) :=
  reordering_of_perm rfl rfl (List.Perm.swap _ _ _)

/-- The two entries have distinct names. -/
theorem hasDistinctTypes_shop : HasDistinctTypes shop := by
  have hnames : (documentEntries shop >>= typesDeclared shop).toOption.map
      (·.map fun entry => Name.withoutArity entry.facts.fullName)
        = some ["Order", "Shop.Customer"] := by decide +kernel
  intro raw entries hraw hentries
  rw [hraw, Except.bind_ok_eq, hentries] at hnames
  have hnames : (entries.map fun entry => Name.withoutArity entry.facts.fullName)
      = ["Order", "Shop.Customer"] := Option.some.inj hnames
  unfold HasDistinctNames
  rw [hnames]
  decide

/-- The display names of the types of all properties, by entries. -/
def propertyNames (catalog : Catalog) : List (List String) :=
  catalog.graph.entries.map fun entry => entry.properties.map fun property =>
    (catalog.graph.tree property.type).displayName

/-! ### Any order -/

/-- **The order of entries does not matter.**  Let the declared types of a document have distinct
full names without an arity.  Then a document with its types in another order is accepted if and
only if the document itself is, and both have the same types with the same members, where a
reference to a declared type is one to the declared type with the same full name. -/
theorem read_in_any_order (h : Reordering same document document')
    (hdistinct : HasDistinctTypes document) (settings : Settings) :
    ((∃ catalog, ofDocument settings document = .ok catalog) ↔
      ∃ catalog', ofDocument settings document' = .ok catalog') ∧
    ∀ catalog catalog', ofDocument settings document = .ok catalog →
      ofDocument settings document' = .ok catalog' → catalog.SameTypes catalog' := by
  refine ⟨⟨fun ⟨catalog, hcatalog⟩ => ?_, fun ⟨catalog', hcatalog'⟩ => ?_⟩,
    fun catalog catalog' hcatalog hcatalog' => ?_⟩
  · obtain ⟨catalog', hcatalog', -⟩ := h.ofDocument hdistinct hcatalog
    exact ⟨catalog', hcatalog'⟩
  · obtain ⟨catalog, hcatalog, -⟩ := h.symm.ofDocument (h.hasDistinctTypes hdistinct) hcatalog'
    exact ⟨catalog, hcatalog⟩
  · obtain ⟨other, hother, hsame⟩ := h.ofDocument hdistinct hcatalog
    obtain rfl : other = catalog' := Except.ok.inj (hother.symm.trans hcatalog')
    exact hsame

/-- The customers are found by their simple name, wherever they stand. -/
theorem read_in_any_order_shop :
    Reordering Eq shop (withItems shop 1 [.collection 3, .collection 2]) ∧
      HasDistinctTypes shop ∧
      ∃ catalog catalog', ofDocument {} shop = .ok catalog ∧
        ofDocument {} (withItems shop 1 [.collection 3, .collection 2]) = .ok catalog' ∧
        catalog.SameTypes catalog' ∧ catalog.find? "Customer" = some 1 ∧
        catalog'.find? "Customer" = some 0 ∧ catalog.propertyNames = [["Customer[]"], []] ∧
        catalog'.propertyNames = [[], ["Customer[]"]] := by
  have hread : (ofDocument {} shop).toOption.any (fun catalog =>
      catalog.find? "Customer" = some 1 ∧ catalog.propertyNames = [["Customer[]"], []]) = true := by
    decide +kernel
  have hread' : (ofDocument {} (withItems shop 1 [.collection 3, .collection 2])).toOption.any
      (fun catalog => catalog.find? "Customer" = some 0 ∧
        catalog.propertyNames = [[], ["Customer[]"]]) = true := by
    decide +kernel
  obtain ⟨catalog, hcatalog, hholds⟩ := Except.exists_of_any hread
  obtain ⟨catalog', hcatalog', hholds'⟩ := Except.exists_of_any hread'
  obtain ⟨hfind, hnames⟩ := of_decide_eq_true hholds
  obtain ⟨hfind', hnames'⟩ := of_decide_eq_true hholds'
  -- That both are read is looked up; that they have the same types is the theorem.
  have hsame := (read_in_any_order reordering_shop hasDistinctTypes_shop {}).2 catalog catalog'
    hcatalog hcatalog'
  exact ⟨reordering_shop, hasDistinctTypes_shop, catalog, catalog', hcatalog, hcatalog', hsame,
    hfind, hfind', hnames, hnames'⟩

end Catalog

end TypeExport
