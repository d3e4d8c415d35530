import TypeExport.Documentation.Read

/-!
# The first entry wins

Documentation is collected from one text after another.  A text that is no document is passed over,
and of all that is read about an id the first entry that says something is kept.  So what is known
after some reads depends only on the members of the documents among them, in order, and an answer
that was given once is given ever after.

* `attempt`, `afterReads` — what is known after an attempt to read a text, and after several.
* `Entry`, `deciding?` — what a member says about an id, and the first that is said by several.
* `Records` — documentation that holds exactly certain entries, each id in one place;
  `Records.enter` is the step for one member, `Records.enterAll` the run over several.
* `Records.findWithin_mono` — what references lead to, they lead to with more entries.
* `first_entry_wins` — all of this for any sequence of reads.
-/

namespace TypeExport.Documentation

/-! ### Reads that may fail -/

/-- What is known after an attempt to read a text: nothing new if it cannot be read. -/
def attempt (documentation : Documentation) (label text : String) : Documentation :=
  match documentation.read label text with
  | .ok more => more
  | .error _ => documentation

/-- What is known after attempts to read some texts, each with its label, one after the other. -/
def afterReads (documentation : Documentation) (reads : List (String × String)) : Documentation :=
  reads.foldl (fun known source => known.attempt source.1 source.2) documentation

/-- The documents among some texts. -/
def documents (reads : List (String × String)) : List Xml.Element :=
  reads.filterMap fun source => Xml.Element.read? source.2

/-- What is known after some members. -/
def enterAll (documentation : Documentation) (members : List Xml.Element) : Documentation :=
  members.foldl enter documentation

/-- A document that has the members of several documents. -/
def joined (roots : List Xml.Element) : Xml.Element where
  name := ⟨"doc", none⟩
  attributes := []
  content := [.element ⟨"members", none⟩ []
    ((roots.flatMap members).map fun member =>
      .element member.name member.attributes member.content)]

/-- The members of a joined document are those of its parts, in their order. -/
theorem members_joined (roots : List Xml.Element) :
    members (joined roots) = roots.flatMap members := by
  -- All that was collected is a member already, so nothing is filtered out of the joined document.
  have hnamed : ∀ member ∈ roots.flatMap members, member.name.isPlain "member" = true := by
    intro member hmember
    obtain ⟨root, -, hroot⟩ := List.mem_flatMap.mp hmember
    obtain ⟨group, -, hgroup⟩ := List.mem_flatMap.mp hroot
    exact (List.mem_filter.mp hgroup).2
  have hchildren : (Xml.Element.mk ⟨"members", none⟩ []
      ((roots.flatMap members).map fun member =>
        .element member.name member.attributes member.content)).children
        = roots.flatMap members := by
    show List.filterMap _ (List.map _ _) = _
    rw [List.filterMap_map]
    exact List.filterMap_some
  have houter : (joined roots).childrenNamed "members"
      = [.mk ⟨"members", none⟩ [] ((roots.flatMap members).map fun member =>
          .element member.name member.attributes member.content)] := rfl
  unfold members
  rw [houter, List.flatMap_singleton, Xml.Element.childrenNamed]
  rw [hchildren]
  exact List.filter_eq_self.mpr hnamed

variable {documentation later : Documentation}

/-- A text that is no document leaves the documentation as it was. -/
theorem attempt_of_read?_eq_none {label text : String} (h : Xml.Element.read? text = none) :
    documentation.attempt label text = documentation := by
  rw [attempt, read, h]

/-- A text that is a document enters its members. -/
theorem attempt_of_read?_eq_some {label text : String} {root : Xml.Element}
    (h : Xml.Element.read? text = some root) :
    documentation.attempt label text = documentation.enterAll (members root) := by
  rw [attempt, read, h]
  rfl

/-- Only the members of the documents count, in the order in which they are read. -/
theorem afterReads_eq_enterAll (documentation : Documentation) (reads : List (String × String)) :
    documentation.afterReads reads
      = documentation.enterAll ((documents reads).flatMap members) := by
  induction reads generalizing documentation with
  | nil => rfl
  | cons source reads ih =>
    show (documentation.attempt source.1 source.2).afterReads reads = _
    rw [ih]
    -- A source that is no document is skipped, as it is among the documents.
    cases hroot : Xml.Element.read? source.2 with
    | none =>
      have hdocuments : documents (source :: reads) = documents reads :=
        List.filterMap_cons_none hroot
      rw [attempt_of_read?_eq_none hroot, hdocuments]
    | some root =>
      have hdocuments : documents (source :: reads) = root :: documents reads :=
        List.filterMap_cons_some hroot
      rw [attempt_of_read?_eq_some hroot, hdocuments, List.flatMap_cons]
      exact List.foldl_append.symm

/-- Further reads go on from what the earlier ones left. -/
theorem afterReads_append (documentation : Documentation) (reads more : List (String × String)) :
    documentation.afterReads (reads ++ more) = (documentation.afterReads reads).afterReads more :=
  List.foldl_append

/-! ### Entries -/

/-- What is said about an id: its summary, or the id whose summary it takes. -/
inductive Entry where
  | summary (text : String)
  | reference (source : String)
deriving DecidableEq, Repr

namespace Entry

/-- The summary that is said. -/
def summary? : Entry → Option String
  | summary text => some text
  | reference _ => none

/-- The id that is referred to. -/
def source? : Entry → Option String
  | summary _ => none
  | reference source => some source

end Entry

/-- What a member says; its summary comes before a reference. -/
def content? (member : Xml.Element) : Option Entry :=
  match (member.childrenNamed "summary").head? with
  | some summary => some (.summary (summaryText summary))
  | none => (Documentation.source? member).map .reference

/-- What a member says about an id. -/
def entryOf? (member : Xml.Element) (id : String) : Option Entry :=
  if nonEmpty? (member.attribute? "name") = some id then content? member else none

/-- What the first of several members says about an id that says anything about it. -/
def deciding? (members : List Xml.Element) (id : String) : Option Entry :=
  members.findSome? fun member => entryOf? member id

/-- The documentation holds exactly the given entries, so no id has both a summary and a
reference. -/
structure Records (documentation : Documentation) (kept? : String → Option Entry) : Prop where
  summary (id : String) : documentation.summaries.lookup id = (kept? id).bind Entry.summary?
  source (id : String) : documentation.inherited.lookup id = (kept? id).bind Entry.source?

section Records

variable {kept? later? : String → Option Entry}

/-- A member is known exactly if an entry is kept for it. -/
theorem Records.knows_eq (h : documentation.Records kept?) (id : String) :
    documentation.knows id = (kept? id).isSome := by
  unfold knows
  rw [h.summary, h.source]
  cases kept? id with
  | none => rfl
  | some entry => cases entry <;> rfl

/-- Documentation with an entry behind those that it has. -/
def withEntry (documentation : Documentation) (id : String) : Entry → Documentation
  | .summary text => { documentation with summaries := documentation.summaries ++ [(id, text)] }
  | .reference source =>
    { documentation with inherited := documentation.inherited ++ [(id, source)] }

/-- A further entry is found only where none was there before it. -/
theorem lookup_append_singleton (entries : List (String × String)) (id value other : String) :
    (entries ++ [(id, value)]).lookup other
      = (entries.lookup other).or (if id = other then some value else none) := by
  rw [List.lookup_append, List.lookup_singleton]
  by_cases hid : id = other
  · rw [if_pos hid, if_pos (beq_iff_eq.mpr hid.symm)]
  · rw [if_neg hid, if_neg fun heq => hid (beq_iff_eq.mp heq).symm]

/-- A new entry leaves those of other ids as they are. -/
theorem Records.withEntry (h : documentation.Records kept?) {id : String} (hnew : kept? id = none)
    (entry : Entry) :
    (documentation.withEntry id entry).Records fun other =>
      (kept? other).or (if id = other then some entry else none) := by
  -- Summaries and references are kept in two lists; the entry joins one, behind all others.
  constructor
  · intro other
    have hsummary := h.summary other
    by_cases hid : id = other
    · subst hid
      rw [hnew] at hsummary ⊢
      cases entry with
      | summary text =>
        simp [Documentation.withEntry, lookup_append_singleton, hsummary, Entry.summary?]
      | reference source => simpa [Documentation.withEntry, Entry.summary?] using hsummary
    · rw [if_neg hid, Option.or_none, ← hsummary]
      cases entry with
      | summary text => simp [Documentation.withEntry, lookup_append_singleton, hid]
      | reference source => rfl
  · intro other
    have hsource := h.source other
    by_cases hid : id = other
    · subst hid
      rw [hnew] at hsource ⊢
      cases entry with
      | summary text => simpa [Documentation.withEntry, Entry.source?] using hsource
      | reference source =>
        simp [Documentation.withEntry, lookup_append_singleton, hsource, Entry.source?]
    · rw [if_neg hid, Option.or_none, ← hsource]
      cases entry with
      | summary text => rfl
      | reference source => simp [Documentation.withEntry, lookup_append_singleton, hid]

/-- A member is entered under its id, unless the id is known or the member says nothing. -/
theorem enter_eq (documentation : Documentation) (member : Xml.Element) :
    documentation.enter member =
      match nonEmpty? (member.attribute? "name"), content? member with
      | some id, some entry =>
        if documentation.knows id then documentation else documentation.withEntry id entry
      | _, _ => documentation := by
  unfold enter content?
  cases nonEmpty? (member.attribute? "name") with
  | none => rfl
  | some id =>
    cases (member.childrenNamed "summary").head? with
    | some summary => rfl
    | none => cases Documentation.source? member <;> simp [Documentation.withEntry]

/-- **One member.**  What it says about its id is entered if nothing is known about the id. -/
theorem Records.enter (h : documentation.Records kept?) (member : Xml.Element) :
    (documentation.enter member).Records fun id => (kept? id).or (entryOf? member id) := by
  have hnothing (hentry : ∀ id, entryOf? member id = none) :
      documentation.Records fun id => (kept? id).or (entryOf? member id) := by
    simpa [hentry] using h
  rw [enter_eq]
  split
  · next id entry hid hcontent =>
    have hentry : entryOf? member = fun other => if id = other then some entry else none := by
      funext other
      simp [entryOf?, hid, hcontent]
    rw [h.knows_eq, hentry]
    cases hknown : kept? id with
    | none => exact h.withEntry hknown entry
    | some known =>
      -- The entry that is there hides the new one.
      have hkept : (fun other => (kept? other).or (if id = other then some entry else none))
          = kept? := by
        funext other
        by_cases hother : id = other
        · subst hother
          rw [hknown]
          rfl
        · rw [if_neg hother, Option.or_none]
      rw [hkept]
      exact h
  · next hsays =>
    refine hnothing fun id => ?_
    unfold entryOf?
    split
    · next hid => exact Option.eq_none_iff_forall_ne_some.mpr fun entry => hsays id entry hid
    · rfl

/-- **Several members.**  The first that says something about an id is entered, if nothing is known
about the id before. -/
theorem Records.enterAll (h : documentation.Records kept?) (members : List Xml.Element) :
    (documentation.enterAll members).Records fun id => (kept? id).or (deciding? members id) := by
  induction members generalizing documentation kept? with
  | nil => simpa [Documentation.enterAll, deciding?] using h
  | cons member members ih =>
    have hfirst (id : String) : deciding? (member :: members) id
        = (entryOf? member id).or (deciding? members id) := by
      unfold deciding?
      rw [List.findSome?_cons]
      cases entryOf? member id <;> rfl
    simp only [hfirst, ← Option.or_assoc]
    exact ih (h.enter member)

/-- A member that says nothing about an id without an entry changes nothing. -/
theorem Records.enterAll_eq_self (h : documentation.Records kept?) {members : List Xml.Element}
    (hknown : ∀ member ∈ members, ∀ id, (entryOf? member id).isSome → (kept? id).isSome) :
    documentation.enterAll members = documentation := by
  induction members with
  | nil => rfl
  | cons member members ih =>
    obtain ⟨hmember, hmembers⟩ := List.forall_mem_cons.mp hknown
    have hsame : documentation.enter member = documentation := by
      rw [enter_eq]
      split
      · next id entry hid hcontent =>
        have hentry : entryOf? member id = some entry := by
          rw [entryOf?, if_pos hid, hcontent]
        -- The id has an entry already, and the first one stays.
        rw [h.knows_eq, if_pos (hmember id (by rw [hentry]; rfl))]
      · rfl
    show (documentation.enter member).enterAll members = documentation
    rw [hsame]
    exact ih hmembers

/-! ### Answers -/

/-- What references lead to, they lead to in documentation that has more entries and when more of
them may be followed. -/
theorem Records.findWithin_mono (h : documentation.Records kept?) (hlater : later.Records later?)
    (hkeeps : ∀ id entry, kept? id = some entry → later? id = some entry) {steps more : Nat}
    (hsteps : steps ≤ more) {id summary : String}
    (hfound : documentation.findWithin steps id = some summary) :
    later.findWithin more id = some summary := by
  -- A summary is found at once, however many references may be followed.
  have hdirect {more : Nat} {id : String}
      (hsummary : documentation.summaries.lookup id = some summary) :
      later.findWithin more id = some summary := by
    have hlookup : later.summaries.lookup id = some summary := by
      rw [h.summary] at hsummary
      obtain ⟨entry, hentry, htext⟩ := Option.bind_eq_some_iff.mp hsummary
      rw [hlater.summary, hkeeps id entry hentry]
      exact htext
    cases more <;> simp only [findWithin, hlookup]
  induction steps generalizing more id with
  | zero => exact hdirect hfound
  | succ steps ih =>
    rw [findWithin] at hfound
    cases hsummary : documentation.summaries.lookup id with
    | some text =>
      rw [hsummary] at hfound
      obtain rfl : text = summary := Option.some.inj hfound
      exact hdirect hsummary
    | none =>
      cases hsource : documentation.inherited.lookup id with
      | none => simp [hsummary, hsource] at hfound
      | some source =>
        simp only [hsummary, hsource] at hfound
        -- The entry of the id is a reference, then and later.
        rw [h.source] at hsource
        obtain ⟨entry, hentry, hreference⟩ := Option.bind_eq_some_iff.mp hsource
        have hnow := hkeeps id entry hentry
        have hnone : later.summaries.lookup id = none := by
          rw [hlater.summary, hnow]
          cases entry with
          | summary text => cases hreference
          | reference other => rfl
        have hsome : later.inherited.lookup id = some source := by
          rw [hlater.source, hnow]
          exact hreference
        obtain ⟨more, rfl⟩ : ∃ fewer, more = fewer + 1 := ⟨more - 1, by omega⟩
        rw [findWithin, hnone, hsome]
        exact ih (by omega) hfound

end Records

/-- Entering a member forgets no reference. -/
theorem length_inherited_enter (documentation : Documentation) (member : Xml.Element) :
    documentation.inherited.length ≤ (documentation.enter member).inherited.length := by
  rw [enter_eq]
  split
  · next id entry _ _ =>
    split
    · exact Nat.le_refl _
    · cases entry <;> simp [withEntry]
  · exact Nat.le_refl _

/-- Entering members forgets no reference. -/
theorem length_inherited_enterAll (documentation : Documentation) (members : List Xml.Element) :
    documentation.inherited.length ≤ (documentation.enterAll members).inherited.length := by
  induction members generalizing documentation with
  | nil => exact Nat.le_refl _
  | cons member members ih =>
    have hfirst := length_inherited_enter documentation member
    exact Nat.le_trans hfirst (ih (documentation.enter member))

/-- An answer stays the same whatever is entered later. -/
theorem Records.find?_enterAll {kept? : String → Option Entry} (h : documentation.Records kept?)
    (members : List Xml.Element) {id summary : String}
    (hfound : documentation.find? id = some summary) :
    (documentation.enterAll members).find? id = some summary := by
  refine h.findWithin_mono (h.enterAll members) (fun id entry hentry => ?_)
    (length_inherited_enterAll documentation members) hfound
  rw [hentry]
  rfl

/-! ### Any sequence of reads -/

/-- The empty documentation records no entry. -/
theorem records_empty : ({} : Documentation).Records fun _ => none where
  summary _ := rfl
  source _ := rfl

/-- After any run of reads, the documentation records the entry that decides about each member. -/
theorem records_afterReads (reads : List (String × String)) :
    (afterReads {} reads).Records (deciding? ((documents reads).flatMap members)) := by
  have h := records_empty.enterAll ((documents reads).flatMap members)
  rw [← afterReads_eq_enterAll] at h
  simpa using h

/-- **The first entry wins**, after any sequence of reads, some of which may fail.  A read that
fails changes nothing.  What is known is what one document with the members of all documents among
the texts says, and for every id the first member decides that has a summary or refers to an id.
Reading one of the texts again changes nothing, and the summary of a type that is given once is
given after all further reads. -/
theorem first_entry_wins (reads : List (String × String)) :
    (∀ label text error, (afterReads {} reads).read label text = .error error →
      (afterReads {} reads).attempt label text = afterReads {} reads) ∧
    (members (joined (documents reads)) = (documents reads).flatMap members ∧
      afterReads {} reads = enterAll {} (members (joined (documents reads))) ∧
      ∀ label text root, Xml.Element.read? text = some root →
        members root = (documents reads).flatMap members →
          ({} : Documentation).read label text = .ok (afterReads {} reads)) ∧
    (∀ id,
      (afterReads {} reads).summaries.lookup id
        = (deciding? ((documents reads).flatMap members) id).bind Entry.summary? ∧
      (afterReads {} reads).inherited.lookup id
        = (deciding? ((documents reads).flatMap members) id).bind Entry.source?) ∧
    (∀ source ∈ reads, ∀ label,
      (afterReads {} reads).attempt label source.2 = afterReads {} reads) ∧
    ∀ fullName summary, (afterReads {} reads).typeSummary? fullName = some summary →
      ∀ more, (afterReads {} (reads ++ more)).typeSummary? fullName = some summary := by
  have hrecords := records_afterReads reads
  refine ⟨fun label text error herror => ?_, ⟨members_joined _, ?_, ?_⟩, fun id => ?_, ?_, ?_⟩
  · rw [attempt, herror]
  · rw [members_joined, afterReads_eq_enterAll]
  · intro label text root hroot hmembers
    rw [read, hroot, afterReads_eq_enterAll, ← hmembers]
    rfl
  · exact ⟨hrecords.summary id, hrecords.source id⟩
  · intro source hsource label
    cases hroot : Xml.Element.read? source.2 with
    | none => exact attempt_of_read?_eq_none hroot
    | some root =>
      rw [attempt_of_read?_eq_some hroot]
      -- Whatever a member of the text says about an id, the id was entered when it was read.
      refine hrecords.enterAll_eq_self fun member hmember id hsays => ?_
      refine List.findSome?_isSome_iff.mpr ⟨member, List.mem_flatMap.mpr ⟨root, ?_, hmember⟩, hsays⟩
      exact List.mem_filterMap.mpr ⟨source, hsource, hroot⟩
  · intro fullName summary hsummary more
    rw [afterReads_append, afterReads_eq_enterAll (afterReads {} reads)]
    exact hrecords.find?_enterAll _ hsummary

/-- A person takes its summary from a base, which only a later text describes; the text between them
is no document. -/
def personReads : List (String × String) :=
  [("people.xml",
      "<d><members><member name=\"T:P\"><inheritdoc cref=\"T:B\"/></member></members></d>"),
    ("broken.xml", "<d>"),
    ("bases.xml",
      "<d><members><member name=\"T:B\"><summary>A base.</summary></member></members></d>")]

/-- What the base says about the person stays, whatever is read again or afterwards. -/
theorem first_entry_wins_person :
    (∃ error, (afterReads {} personReads).read "broken.xml" "<d>" = .error error) ∧
    (afterReads {} personReads).attempt "broken.xml" "<d>" = afterReads {} personReads ∧
    (∀ source ∈ personReads, (afterReads {} personReads).attempt "again.xml" source.2
      = afterReads {} personReads) ∧
    (afterReads {} personReads).typeSummary? "P" = some "A base." ∧
    (∀ more, (afterReads {} (personReads ++ more)).typeSummary? "P" = some "A base.") ∧
    ({} : Documentation).read "empty.xml" "<d/>" = .ok (afterReads {} [("broken.xml", "<d>")]) := by
  obtain ⟨hfailing, -, -, hagain, hstable⟩ := first_entry_wins personReads
  have hbroken : Xml.Element.read? "<d>" = none := by
    have hnone : (Xml.Element.read? "<d>").isNone = true := by decide +kernel
    exact Option.isNone_iff_eq_none.mp hnone
  have herror (documentation : Documentation) :
      documentation.read "broken.xml" "<d>" = .error (.invalidXml "broken.xml") := by
    rw [read, hbroken]
  have hsummary : (afterReads {} personReads).typeSummary? "P" = some "A base." := by
    decide +kernel
  refine ⟨⟨_, herror _⟩, hfailing _ _ _ (herror _), fun source hsource => hagain source hsource _,
    hsummary, hstable _ _ hsummary, ?_⟩
  -- No document is among the texts, so any document without members says as much.
  have hempty : (Xml.Element.read? "<d/>").any (fun root => (members root).isEmpty) = true := by
    decide +kernel
  obtain ⟨-, ⟨-, -, hjoined⟩, -⟩ := first_entry_wins [("broken.xml", "<d>")]
  have hdocuments : documents [("broken.xml", "<d>")] = [] := List.filterMap_cons_none hbroken
  cases hroot : Xml.Element.read? "<d/>" with
  | none =>
    rw [hroot] at hempty
    cases hempty
  | some root =>
    rw [hroot] at hempty
    refine hjoined _ _ root hroot ?_
    rw [hdocuments]
    exact List.isEmpty_iff.mp hempty

end TypeExport.Documentation
