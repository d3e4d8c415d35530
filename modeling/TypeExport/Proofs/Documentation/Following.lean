import TypeExport.Documentation.Basic
import Mathlib.Data.List.Dedup
import Mathlib.Data.List.Perm.Subperm
import Mathlib.Logic.Relation

/-!
# Following references

The summary of an id is found by following references, which may lead through any number of ids, to
an id that nothing is known about, or into a circle.  A search that turns back where it has been
before comes to an end, and it gives up nothing: an id that is met twice would be met again.

* `TakesFrom`, `LeadsTo`, `Loops` — a reference, what references lead to, and ids that lead back to
  themselves.
* `Search`, `advance`, `answerWithin` — a search that remembers the ids that it has left, step by
  step.
* `Settles` — an answer is the right one for an id, and `Settles.unique` — there is only one.
* `exists_answer` — a search ends in time, with the right answer.
* `settles_findWithin` — what is found is the right answer, if enough references may be followed.
* `find?_follows` — both together, for every documentation and every id.
-/

namespace TypeExport.Documentation

open Relation (ReflTransGen TransGen)

variable (documentation : Documentation)

/-! ### References -/

/-- The id has no summary of its own and takes the one of another id. -/
def TakesFrom (id source : String) : Prop :=
  documentation.summaries.lookup id = none ∧ documentation.inherited.lookup id = some source

/-- References lead from the first id to the second one. -/
def LeadsTo : String → String → Prop :=
  ReflTransGen documentation.TakesFrom

/-- References lead from the id back to it. -/
def Loops (id : String) : Prop :=
  TransGen documentation.TakesFrom id id

/-- The ids that refer to another one. -/
def referring : List String :=
  (documentation.inherited.map (·.1)).dedup

/-- An answer is the right one for an id: the summary of an id that references lead to, or none if
they end at an id that nothing is known about or run into a circle. -/
def Settles (id : String) : Option String → Prop
  | some summary =>
    ∃ target, documentation.LeadsTo id target ∧
      documentation.summaries.lookup target = some summary
  | none =>
    (∃ target, documentation.LeadsTo id target ∧ documentation.knows target = false) ∨
      ∃ target, documentation.LeadsTo id target ∧ documentation.Loops target

/-! ### Searching step by step -/

/-- A search for a summary: the ids that it has left, and the id that it is at. -/
structure Search where
  left : List String := []
  id : String

/-- One step of a search: a summary ends it, and so do an id without any entry and one that the
search has left before; from any other id the search goes on to the one that it refers to. -/
def advance (search : Search) : Search ⊕ Option String :=
  match documentation.summaries.lookup search.id with
  | some summary => .inr (some summary)
  | none =>
    match documentation.inherited.lookup search.id with
    | none => .inr none
    | some source =>
      if search.id ∈ search.left then .inr none else .inl ⟨search.id :: search.left, source⟩

/-- The answer of a search that ends within some steps. -/
def answerWithin : Nat → Search → Option (Option String)
  | 0, _ => none
  | steps + 1, search =>
    match documentation.advance search with
    | .inl next => answerWithin steps next
    | .inr answer => some answer

/-- The ids that a search has left are distinct, and each of them leads to where it is. -/
structure Search.IsTrail (search : Search) : Prop where
  nodup : search.left.Nodup
  behind : ∀ id ∈ search.left, TransGen documentation.TakesFrom id search.id

variable {documentation} {id source target target' summary : String} {search : Search}

/-! ### Where references lead -/

/-- An id takes its summary from one other at most. -/
theorem takesFrom_rightUnique : Relator.RightUnique documentation.TakesFrom :=
  fun _ _ _ h h' => Option.some.inj (h.2.symm.trans h'.2)

/-- An id that takes its summary from another is one that refers. -/
theorem TakesFrom.mem_referring (h : documentation.TakesFrom id source) :
    id ∈ documentation.referring := by
  obtain ⟨before, behind, hinherited, -⟩ := List.lookup_eq_some_iff.mp h.2
  simp [referring, hinherited]

/-- An id with a summary of its own takes none from another. -/
theorem not_takesFrom_of_summary (h : documentation.summaries.lookup id = some summary) :
    ¬ documentation.TakesFrom id source := by
  rintro ⟨hnone, -⟩
  cases hnone.symm.trans h

/-- An unknown id takes its summary from no other. -/
theorem not_takesFrom_of_unknown (h : documentation.knows id = false) :
    ¬ documentation.TakesFrom id source := by
  rintro ⟨-, hsome⟩
  simp [knows, hsome] at h

/-- Two ids where references end are the same if one id leads to both. -/
theorem eq_of_leadsTo_ends (hends : ∀ source, ¬ documentation.TakesFrom target source)
    (hends' : ∀ source, ¬ documentation.TakesFrom target' source)
    (h : documentation.LeadsTo id target) (h' : documentation.LeadsTo id target') :
    target = target' := by
  obtain hleads | hleads := ReflTransGen.total_of_right_unique takesFrom_rightUnique h h'
  · obtain heq | ⟨source, htakes, -⟩ := hleads.cases_head
    · exact heq
    · exact absurd htakes (hends source)
  · obtain heq | ⟨source, htakes, -⟩ := hleads.cases_head
    · exact heq.symm
    · exact absurd htakes (hends' source)

/-- References never lead out of a circle. -/
theorem Loops.leadsTo (h : documentation.Loops id) (hleads : documentation.LeadsTo id target) :
    documentation.Loops target := by
  induction hleads with
  | refl => exact h
  | @tail between target _ htakes ih =>
    obtain ⟨next, hnext, hback⟩ := TransGen.head'_iff.mp ih
    obtain rfl : target = next := takesFrom_rightUnique htakes hnext
    exact TransGen.tail' hback htakes

/-- An id on a circle takes its summary from another. -/
theorem Loops.exists_takesFrom (h : documentation.Loops id) :
    ∃ source, documentation.TakesFrom id source := by
  obtain ⟨source, htakes, -⟩ := TransGen.head'_iff.mp h
  exact ⟨source, htakes⟩

/-- An id that leads into a circle leads to no id where references end. -/
theorem not_loops_of_ends (hends : ∀ source, ¬ documentation.TakesFrom target source)
    (h : documentation.LeadsTo id target) (h' : documentation.LeadsTo id target') :
    ¬ documentation.Loops target' := by
  intro hloops
  have hnot : ¬ documentation.Loops target := fun hloop =>
    hloop.exists_takesFrom.elim hends
  obtain hleads | hleads := ReflTransGen.total_of_right_unique takesFrom_rightUnique h h'
  · obtain rfl | ⟨source, htakes, -⟩ := hleads.cases_head
    · exact hnot hloops
    · exact hends source htakes
  · exact hnot (hloops.leadsTo hleads)

/-- **One answer.** An id does not have two right answers. -/
theorem Settles.unique {answer answer' : Option String} (h : documentation.Settles id answer)
    (h' : documentation.Settles id answer') : answer = answer' := by
  -- Where a summary stands references end, so no other summary, no unknown id and no circle can be
  -- reached beside it.
  have hnone {summary : String} (h : documentation.Settles id (some summary))
      (h' : documentation.Settles id none) : False := by
    obtain ⟨target, hleads, hsummary⟩ := h
    have hends : ∀ source, ¬ documentation.TakesFrom target source := fun _ =>
      not_takesFrom_of_summary hsummary
    obtain ⟨target', hleads', hunknown⟩ | ⟨target', hleads', hloops⟩ := h'
    · obtain rfl := eq_of_leadsTo_ends hends (fun _ => not_takesFrom_of_unknown hunknown) hleads
        hleads'
      simp [knows, hsummary] at hunknown
    · exact not_loops_of_ends hends hleads hleads' hloops
  cases answer with
  | none =>
    cases answer' with
    | none => rfl
    | some summary => exact (hnone h' h).elim
  | some summary =>
    cases answer' with
    | none => exact (hnone h h').elim
    | some summary' =>
      obtain ⟨target, hleads, hsummary⟩ := h
      obtain ⟨target', hleads', hsummary'⟩ := h'
      obtain rfl := eq_of_leadsTo_ends (fun _ => not_takesFrom_of_summary hsummary)
        (fun _ => not_takesFrom_of_summary hsummary') hleads hleads'
      exact hsummary.symm.trans hsummary'

/-- The right answer for an id is that of the id whose summary it takes. -/
theorem Settles.head {answer : Option String} (htakes : documentation.TakesFrom id source)
    (h : documentation.Settles source answer) : documentation.Settles id answer := by
  cases answer with
  | some summary =>
    obtain ⟨target, hleads, hsummary⟩ := h
    exact ⟨target, hleads.head htakes, hsummary⟩
  | none =>
    obtain ⟨target, hleads, hunknown⟩ | ⟨target, hleads, hloops⟩ := h
    · exact .inl ⟨target, hleads.head htakes, hunknown⟩
    · exact .inr ⟨target, hleads.head htakes, hloops⟩

/-! ### What a search does -/

/-- A search goes on along a reference. -/
theorem takesFrom_of_advance {next : Search} (h : documentation.advance search = .inl next) :
    documentation.TakesFrom search.id next.id := by
  -- A step that does not end has found no summary, but a source that was not left before.
  unfold advance at h
  split at h
  · cases h
  · next hsummary =>
    split at h
    · cases h
    · next source hsource =>
      split at h
      · cases h
      · obtain rfl := Sum.inl.inj h
        exact ⟨hsummary, hsource⟩

/-- A search that finds a summary stands at its id. -/
theorem summary_of_advance (h : documentation.advance search = .inr (some summary)) :
    documentation.summaries.lookup search.id = some summary := by
  unfold advance at h
  split at h
  · next text htext => exact htext.trans (Sum.inr.inj h)
  · split at h
    · cases h
    · split at h <;> cases h

/-- **Steps of a search.** A step ends with the right answer, or goes on along a reference from an
id that the search has not left before. -/
theorem advance_cases (h : search.IsTrail documentation) :
    (∃ answer, documentation.advance search = .inr answer ∧
      documentation.Settles search.id answer) ∨
    ∃ source, documentation.advance search = .inl ⟨search.id :: search.left, source⟩ ∧
      documentation.TakesFrom search.id source ∧ search.id ∉ search.left := by
  unfold advance
  cases hsummary : documentation.summaries.lookup search.id with
  | some summary => exact .inl ⟨some summary, rfl, search.id, .refl, hsummary⟩
  | none =>
    cases hsource : documentation.inherited.lookup search.id with
    | none => exact .inl ⟨none, rfl, .inl ⟨search.id, .refl, by simp [knows, hsummary, hsource]⟩⟩
    | some source =>
      by_cases hleft : search.id ∈ search.left
      · -- The search has come back, so the id leads to itself.
        exact .inl ⟨none, if_pos hleft, .inr ⟨search.id, .refl, h.behind _ hleft⟩⟩
      · exact .inr ⟨source, if_neg hleft, ⟨hsummary, hsource⟩, hleft⟩

/-- A search that starts has left no id. -/
theorem Search.isTrail_start (documentation : Documentation) (id : String) :
    Search.IsTrail documentation { id } where
  nodup := .nil
  behind _ h := (List.not_mem_nil h).elim

/-- A step along a reference keeps the trail. -/
theorem Search.IsTrail.next (h : search.IsTrail documentation)
    (htakes : documentation.TakesFrom search.id source) (hnew : search.id ∉ search.left) :
    Search.IsTrail documentation ⟨search.id :: search.left, source⟩ where
  nodup := h.nodup.cons hnew
  behind := List.forall_mem_cons.mpr
    ⟨.single htakes, fun id hid => (h.behind id hid).tail htakes⟩

/-- A search has left no more ids than there are ids that refer to another one. -/
theorem Search.IsTrail.length_le (h : search.IsTrail documentation) :
    search.left.length ≤ documentation.referring.length := by
  refine (h.nodup.subperm fun id hid => ?_).length_le
  obtain ⟨source, htakes, -⟩ := TransGen.head'_iff.mp (h.behind id hid)
  exact htakes.mem_referring

/-- **Searches end**, with the right answer, before they have left every id that refers to another
one and taken one more step. -/
theorem exists_answer (h : search.IsTrail documentation) :
    ∃ steps answer, steps + search.left.length ≤ documentation.referring.length + 1 ∧
      documentation.answerWithin steps search = some answer ∧
      documentation.Settles search.id answer := by
  -- The induction is on how many of the ids that refer to another one are not left yet.
  induction hroom : documentation.referring.length - search.left.length generalizing search with
  | zero =>
    have hle := h.length_le
    obtain ⟨answer, hadvance, hsettles⟩ | ⟨source, -, htakes, hnew⟩ := advance_cases h
    · exact ⟨1, answer, by omega, by rw [answerWithin, hadvance], hsettles⟩
    -- All of them have been left, so there is no further step.
    · have hnext := (h.next htakes hnew).length_le
      simp only [List.length_cons] at hnext
      omega
  | succ room ih =>
    have hle := h.length_le
    obtain ⟨answer, hadvance, hsettles⟩ | ⟨source, hadvance, htakes, hnew⟩ := advance_cases h
    · exact ⟨1, answer, by omega, by rw [answerWithin, hadvance], hsettles⟩
    · obtain ⟨steps, answer, hsteps, hanswer, hsettles⟩ :=
        ih (h.next htakes hnew) (by rw [List.length_cons]; omega)
      rw [List.length_cons] at hsteps
      refine ⟨steps + 1, answer, by omega, ?_, hsettles.head htakes⟩
      rw [answerWithin, hadvance]
      exact hanswer

/-! ### What is found -/

/-- A summary that is found is one that references lead to. -/
theorem settles_of_findWithin {steps : Nat}
    (h : documentation.findWithin steps id = some summary) :
    documentation.Settles id (some summary) := by
  induction steps generalizing id with
  | zero => exact ⟨id, .refl, h⟩
  | succ steps ih =>
    rw [findWithin] at h
    split at h
    · next text htext => exact ⟨id, .refl, htext.trans h⟩
    · next hnone =>
      split at h
      · next source hsource => exact (ih h).head ⟨hnone, hsource⟩
      · cases h

/-- The summary of an id itself is found at once. -/
theorem findWithin_of_summary (h : documentation.summaries.lookup id = some summary)
    (steps : Nat) : documentation.findWithin steps id = some summary := by
  cases steps <;> simp only [findWithin, h]

/-- One more step finds what is found from the id that the summary is taken from. -/
theorem TakesFrom.findWithin (h : documentation.TakesFrom id source) (steps : Nat) :
    documentation.findWithin (steps + 1) id = documentation.findWithin steps source := by
  rw [Documentation.findWithin, h.1, h.2]

/-- A summary that a search answers with is found by following one reference less than the search
takes steps. -/
theorem findWithin_of_answerWithin {steps more : Nat}
    (h : documentation.answerWithin steps search = some (some summary))
    (hle : steps ≤ more + 1) : documentation.findWithin more search.id = some summary := by
  induction steps generalizing search more with
  | zero => cases h
  | succ steps ih =>
    rw [answerWithin] at h
    cases hadvance : documentation.advance search with
    | inr answer =>
      rw [hadvance] at h
      obtain rfl : answer = some summary := Option.some.inj h
      exact findWithin_of_summary (summary_of_advance hadvance) more
    | inl next =>
      rw [hadvance] at h
      cases steps with
      | zero => cases h
      | succ steps =>
        -- The last step only reads the summary, so the references are one fewer than the steps.
        obtain ⟨fewer, rfl⟩ : ∃ fewer, more = fewer + 1 := ⟨more - 1, by omega⟩
        rw [(takesFrom_of_advance hadvance).findWithin]
        exact ih h (by omega)

/-- **Any number of references.**  As many references as there are ids that refer to another one
are enough, and following more of them changes nothing. -/
theorem settles_findWithin {steps : Nat} (hsteps : documentation.referring.length ≤ steps) :
    documentation.Settles id (documentation.findWithin steps id) := by
  obtain ⟨taken, answer, htaken, hanswer, hsettles⟩ :=
    exists_answer (Search.isTrail_start documentation id)
  cases answer with
  | some summary =>
    have hfound : documentation.findWithin steps id = some summary :=
      findWithin_of_answerWithin hanswer (Nat.le_trans htaken (Nat.succ_le_succ hsteps))
    rw [hfound]
    exact hsettles
  | none =>
    cases hfound : documentation.findWithin steps id with
    | none => exact hsettles
    -- A summary that is found would be led to, where the search has said that none is.
    | some summary => cases hsettles.unique (settles_of_findWithin hfound)

/-- There are no more ids that refer to another than there are references. -/
theorem length_referring_le : documentation.referring.length ≤ documentation.inherited.length := by
  have hle := (List.dedup_sublist (documentation.inherited.map (·.1))).length_le
  rwa [List.length_map] at hle

/-- **References end where they lead.**  For every id, a search that never leaves an id twice ends
after at most one step for every id that refers to another one and one more, and its answer is what
is found.  It is the same however many references may be followed, if these are not fewer than such
ids.  A summary is found if and only if references lead from the id to an id with this summary, and
none is found if and only if they end at an id that nothing is known about or run into a circle. -/
theorem find?_follows (documentation : Documentation) (id : String) :
    (∃ steps ≤ documentation.referring.length + 1,
      documentation.answerWithin steps { id } = some (documentation.find? id)) ∧
    (∀ steps, documentation.referring.length ≤ steps →
      documentation.findWithin steps id = documentation.find? id) ∧
    (∀ summary, documentation.find? id = some summary ↔
      ∃ target, documentation.LeadsTo id target ∧
        documentation.summaries.lookup target = some summary) ∧
    (documentation.find? id = none ↔
      (∃ target, documentation.LeadsTo id target ∧ documentation.knows target = false) ∨
        ∃ target, documentation.LeadsTo id target ∧ documentation.Loops target) := by
  have hfind : documentation.Settles id (documentation.find? id) :=
    settles_findWithin length_referring_le
  -- There is one right answer, so what is found is decided by what is right.
  have hiff (answer : Option String) :
      documentation.find? id = answer ↔ documentation.Settles id answer :=
    ⟨fun h => h ▸ hfind, fun h => hfind.unique h⟩
  refine ⟨?_, fun steps hsteps => (settles_findWithin hsteps).unique hfind,
    fun summary => hiff (some summary), hiff none⟩
  obtain ⟨steps, answer, hsteps, hanswer, hsettles⟩ :=
    exists_answer (Search.isTrail_start documentation id)
  rw [hfind.unique hsettles]
  exact ⟨steps, hsteps, hanswer⟩

end TypeExport.Documentation
