import TypeExport.Report
import Mathlib.Data.List.Perm.Basic

/-!
# Outcomes of steps

How a computation that may fail comes to an end: what a successful sequence of steps says of its
steps, and what becomes of the values that reports yield.

* `Except.bind_eq_ok_iff`, `Except.map_eq_ok_iff`, `Except.mapError_eq_ok_iff`,
  `Except.mapM_eq_ok_iff` — a success comes from successes.
* `Except.bind_eq_error_iff`, `Except.map_eq_error_iff`, `Except.mapError_eq_error_iff` — where a
  failure comes from.
* `Except.mem_of_mapM_eq_ok`, `Except.map_eq_of_mapM_eq_ok`, `Except.exists_mapM_eq_ok_iff` — the
  results of a list of steps.
* `Except.isOk_iff`, `Except.mem_toOption_iff`, `Except.exists_of_any`,
  `Option.exists_mapM_eq_some_iff` — when there are results at all.
* `Except.exists_mapM_eq_ok_of_perm`, `Except.exists_mapM_eq_ok_of_forall₂` — the steps in another
  order, and steps that follow them one by one.
* `Option.mapM_eq_some_iff`, `Option.exists_mapM_eq_some_of_forall₂` — the same for steps that may
  have no result; `Option.mapM_map_eq_some` — what is written item by item is read back.
* `Except.FailsOnly` — a predicate on whatever error the outcome is.
* `Report.Yields` — the report succeeds, with a value of a certain kind.
* `Report.outcome_bind`, `Report.outcome_mapM` — the outcome of a sequence of reports is that of
  the sequence of their outcomes.
-/

namespace Except

variable {ε ε' α β : Type}

/-- After a value, the next step goes on with it. -/
@[simp] theorem bind_ok_eq (value : α) (next : α → Except ε β) : (ok value >>= next) = next value :=
  rfl

/-- Steps succeed together when each one succeeds on what the one before gave. -/
theorem bind_eq_ok_iff {step : Except ε α} {next : α → Except ε β} {result : β} :
    (step >>= next) = ok result ↔ ∃ value, step = ok value ∧ next value = ok result := by
  constructor
  · intro h
    cases step with
    | error error => cases h
    | ok value => exact ⟨value, rfl, h⟩
  · rintro ⟨value, rfl, h⟩
    exact h

/-- Steps fail together when the first one fails, or the next one on what it gave. -/
theorem bind_eq_error_iff {step : Except ε α} {next : α → Except ε β} {failure : ε} :
    (step >>= next) = error failure ↔
      step = error failure ∨ ∃ value, step = ok value ∧ next value = error failure := by
  constructor
  · intro h
    cases step with
    | error problem =>
      obtain rfl : problem = failure := Except.error.inj h
      exact .inl rfl
    | ok value => exact .inr ⟨value, rfl, h⟩
  · rintro (rfl | ⟨value, rfl, h⟩)
    · rfl
    · exact h

/-- A mapped outcome is there exactly if a value is there that is mapped to it. -/
theorem map_eq_ok_iff {step : Except ε α} {f : α → β} {result : β} :
    step.map f = ok result ↔ ∃ value, step = ok value ∧ f value = result := by
  cases step <;> simp [Except.map]

/-- Renaming an error leaves the values. -/
theorem mapError_eq_ok_iff {step : Except ε α} {f : ε → ε'} {result : α} :
    step.mapError f = ok result ↔ step = ok result := by
  cases step with
  | error error => exact ⟨nofun, nofun⟩
  | ok value =>
    constructor
    · intro h
      obtain rfl : value = result := Except.ok.inj h
      rfl
    · intro h
      obtain rfl : value = result := Except.ok.inj h
      rfl

/-- Mapping the value leaves the errors. -/
theorem map_eq_error_iff {step : Except ε α} {f : α → β} {failure : ε} :
    step.map f = error failure ↔ step = error failure := by
  cases step <;> simp [Except.map]

/-- A renamed error comes from an error of that name. -/
theorem mapError_eq_error_iff {step : Except ε α} {f : ε → ε'} {failure : ε'} :
    step.mapError f = error failure ↔ ∃ problem, step = error problem ∧ f problem = failure := by
  cases step <;> simp [Except.mapError]

/-- A list of steps succeeds when each step does, with their results in order. -/
theorem mapM_eq_ok_iff {step : α → Except ε β} {items : List α} {results : List β} :
    items.mapM step = ok results ↔
      List.Forall₂ (fun item result => step item = ok result) items results := by
  -- The induction is on the steps; each one is followed by those behind it.
  induction items generalizing results with
  | nil => cases results <;> simp [pure, Except.pure]
  | cons item items ih =>
    rw [List.mapM_cons, bind_eq_ok_iff]
    constructor
    · rintro ⟨first, hfirst, h⟩
      obtain ⟨others, hothers, hresults⟩ := bind_eq_ok_iff.mp h
      obtain rfl : first :: others = results := Except.ok.inj hresults
      exact .cons hfirst (ih.mp hothers)
    · rintro (_ | ⟨hfirst, hothers⟩)
      exact ⟨_, hfirst, bind_eq_ok_iff.mpr ⟨_, ih.mpr hothers, rfl⟩⟩

/-- The results of a list of steps are those that the steps give. -/
theorem mem_of_mapM_eq_ok {step : α → Except ε β} {items : List α} {results : List β}
    (h : items.mapM step = ok results) (result : β) :
    result ∈ results ↔ ∃ item ∈ items, step item = ok result := by
  -- The induction is on the results side by side with their steps.
  induction mapM_eq_ok_iff.mp h with
  | nil => simp
  | cons hfirst hothers ih =>
    rw [List.mem_cons, List.exists_mem_cons_iff, ih (mapM_eq_ok_iff.mpr hothers), hfirst,
      ok.injEq, eq_comm]

/-- What each step keeps, the list of results keeps in order. -/
theorem map_eq_of_mapM_eq_ok {γ : Type} {step : α → Except ε β} {items : List α} {results : List β}
    (h : items.mapM step = ok results) {f : α → γ} {g : β → γ}
    (hstep : ∀ item result, step item = ok result → g result = f item) :
    results.map g = items.map f := by
  induction mapM_eq_ok_iff.mp h with
  | nil => rfl
  | cons hfirst hothers ih =>
    rw [List.map_cons, List.map_cons, hstep _ _ hfirst, ih (mapM_eq_ok_iff.mpr hothers)]

/-- A list of steps succeeds unless one of them fails. -/
theorem exists_mapM_eq_ok_iff {step : α → Except ε β} {items : List α} :
    (∃ results, items.mapM step = ok results) ↔
      ∀ item ∈ items, ∃ result, step item = ok result := by
  simp only [mapM_eq_ok_iff]
  induction items with
  | nil => simp
  | cons item items ih =>
    rw [List.forall_mem_cons, ← ih]
    constructor
    · rintro ⟨results, _ | ⟨hfirst, hothers⟩⟩
      exact ⟨⟨_, hfirst⟩, ⟨_, hothers⟩⟩
    · rintro ⟨⟨first, hfirst⟩, ⟨others, hothers⟩⟩
      exact ⟨first :: others, .cons hfirst hothers⟩

/-- Steps in another order give the same results in another order. -/
theorem exists_mapM_eq_ok_of_perm {step : α → Except ε β} {items items' : List α}
    {results : List β} (hperm : items.Perm items') (h : items.mapM step = ok results) :
    ∃ results', items'.mapM step = ok results' ∧ results.Perm results' := by
  obtain ⟨results', hresults', hsame⟩ := List.perm_comp_forall₂ hperm.symm (mapM_eq_ok_iff.mp h)
  exact ⟨results', mapM_eq_ok_iff.mpr hresults', hsame.symm⟩

/-- Steps that succeed whenever those that they follow do, succeed together when those do. -/
theorem exists_mapM_eq_ok_of_forall₂ {α' β' ε' : Type} {step : α → Except ε β}
    {step' : α' → Except ε' β'} {R : α → α' → Prop} {S : β → β' → Prop} {items : List α}
    {items' : List α'} {results : List β} (hitems : List.Forall₂ R items items')
    (hstep : ∀ item item' result, R item item' → step item = ok result →
      ∃ result', step' item' = ok result' ∧ S result result')
    (h : items.mapM step = ok results) :
    ∃ results', items'.mapM step' = ok results' ∧ List.Forall₂ S results results' := by
  induction hitems generalizing results with
  | nil =>
    obtain rfl := ok.inj h
    exact ⟨[], rfl, .nil⟩
  | cons hitem _ ih =>
    -- The first step has its result, and so has the one that follows it.
    cases mapM_eq_ok_iff.mp h with
    | cons hfirst hothers =>
      obtain ⟨first, hfirst', hsame⟩ := hstep _ _ _ hitem hfirst
      obtain ⟨others, hothers', hrest⟩ := ih (mapM_eq_ok_iff.mpr hothers)
      exact ⟨first :: others, mapM_eq_ok_iff.mpr (.cons hfirst' (mapM_eq_ok_iff.mp hothers')),
        .cons hsame hrest⟩

/-- An outcome is fine exactly if it has a value. -/
theorem isOk_iff {outcome : Except ε α} : outcome.isOk = true ↔ ∃ value, outcome = ok value := by
  cases outcome with
  | error error => exact iff_of_false Bool.false_ne_true nofun
  | ok value => exact iff_of_true rfl ⟨value, rfl⟩

/-- The value of an outcome as an option is its value. -/
theorem mem_toOption_iff {outcome : Except ε α} {value : α} :
    value ∈ outcome.toOption ↔ outcome = ok value := by
  cases outcome with
  | error error => exact iff_of_false nofun nofun
  | ok other => simp [Except.toOption, eq_comm]

/-- An outcome whose value passes a test has a value. -/
theorem exists_of_any {outcome : Except ε α} {holds : α → Bool}
    (h : outcome.toOption.any holds = true) : ∃ value, outcome = ok value ∧ holds value = true := by
  obtain ⟨value, hvalue, hholds⟩ := (Option.any_eq_true _ _).mp h
  exact ⟨value, mem_toOption_iff.mp hvalue, hholds⟩

/-! ### Errors -/

section FailsOnly

variable {P : ε → Prop}

/-- Whatever error the outcome is satisfies a predicate. -/
def FailsOnly (P : ε → Prop) (outcome : Except ε α) : Prop :=
  ∀ error, outcome = .error error → P error

/-- A value does not fail. -/
theorem failsOnly_ok (value : α) : FailsOnly P (ok value : Except ε α) :=
  nofun

/-- One step after another fails only as they do. -/
theorem FailsOnly.bind {step : Except ε α} {next : α → Except ε β} (h : step.FailsOnly P)
    (hnext : ∀ value, (next value).FailsOnly P) : (step >>= next).FailsOnly P := by
  intro failure hfailure
  cases step with
  | error error =>
    obtain rfl : error = failure := Except.error.inj hfailure
    exact h error rfl
  | ok value => exact hnext value failure hfailure

/-- The next step may rely on what the step before gave. -/
theorem FailsOnly.bind_of_eq_ok {step : Except ε α} {next : α → Except ε β} (h : step.FailsOnly P)
    (hnext : ∀ value, step = ok value → (next value).FailsOnly P) :
    (step >>= next).FailsOnly P := by
  intro failure hfailure
  obtain herror | ⟨value, hvalue, hfailure⟩ := bind_eq_error_iff.mp hfailure
  · exact h failure herror
  · exact hnext value hvalue failure hfailure

/-- Steps over a list fail only as each of them does. -/
theorem FailsOnly.mapM {step : α → Except ε β} {items : List α}
    (h : ∀ item ∈ items, (step item).FailsOnly P) : (items.mapM step).FailsOnly P := by
  induction items with
  | nil => exact failsOnly_ok []
  | cons item items ih =>
    obtain ⟨hfirst, hothers⟩ := List.forall_mem_cons.mp h
    rw [List.mapM_cons]
    exact hfirst.bind fun _ => (ih hothers).bind fun _ => failsOnly_ok _

/-- Renamed errors are those whose new names are allowed. -/
theorem FailsOnly.mapError {f : ε → ε'} {Q : ε' → Prop} {outcome : Except ε α}
    (h : outcome.FailsOnly fun error => Q (f error)) : (outcome.mapError f).FailsOnly Q := by
  intro failure hfailure
  cases outcome with
  | error error =>
    obtain rfl : f error = failure := Except.error.inj hfailure
    exact h error rfl
  | ok value => cases hfailure

end FailsOnly

end Except

namespace Option

variable {α β : Type} {step : α → Option β} {items : List α} {results : List β}

/-- A list of steps has results when each step has one, with these in order. -/
theorem mapM_eq_some_iff :
    items.mapM step = some results ↔
      List.Forall₂ (fun item result => step item = some result) items results := by
  induction items generalizing results with
  | nil => cases results <;> simp
  | cons item items ih =>
    rw [List.mapM_cons, Option.bind_eq_bind, Option.bind_eq_some_iff]
    constructor
    · rintro ⟨first, hfirst, h⟩
      obtain ⟨others, hothers, hresults⟩ := Option.bind_eq_some_iff.mp h
      obtain rfl : first :: others = results := Option.some.inj hresults
      exact .cons hfirst (ih.mp hothers)
    · rintro (_ | ⟨hfirst, hothers⟩)
      exact ⟨_, hfirst, Option.bind_eq_some_iff.mpr ⟨_, ih.mpr hothers, rfl⟩⟩

/-- What is written item by item is read back item by item. -/
theorem mapM_map_eq_some {write : β → α}
    (h : ∀ result ∈ results, step (write result) = some result) :
    (results.map write).mapM step = some results := by
  rw [mapM_eq_some_iff, List.forall₂_map_left_iff, List.forall₂_same]
  exact h

/-- A list of steps has results with a property when each step has one. -/
theorem exists_mapM_eq_some_iff {P : β → Prop} :
    (∃ results, items.mapM step = some results ∧ ∀ result ∈ results, P result) ↔
      ∀ item ∈ items, ∃ result, step item = some result ∧ P result := by
  simp only [mapM_eq_some_iff]
  induction items with
  | nil => simp
  | cons item items ih =>
    -- The results of the steps behind the first one are the ones of the induction.
    rw [List.forall_mem_cons, ← ih]
    constructor
    · rintro ⟨results, _ | ⟨hfirst, hothers⟩, hP⟩
      obtain ⟨hPfirst, hPothers⟩ := List.forall_mem_cons.mp hP
      exact ⟨⟨_, hfirst, hPfirst⟩, ⟨_, hothers, hPothers⟩⟩
    · rintro ⟨⟨first, hfirst, hPfirst⟩, ⟨others, hothers, hPothers⟩⟩
      exact ⟨first :: others, .cons hfirst hothers, List.forall_mem_cons.mpr ⟨hPfirst, hPothers⟩⟩

/-- Each item of a list that is mapped has its result among the results. -/
theorem exists_mem_of_mapM_eq_some (h : items.mapM step = some results) {item : α}
    (hitem : item ∈ items) : ∃ result ∈ results, step item = some result := by
  induction mapM_eq_some_iff.mp h with
  | nil => cases hitem
  | cons hfirst hothers ih =>
    obtain rfl | hitem := List.mem_cons.mp hitem
    · exact ⟨_, List.mem_cons_self, hfirst⟩
    · obtain ⟨result, hmem, hresult⟩ := ih (mapM_eq_some_iff.mpr hothers) hitem
      exact ⟨result, List.mem_cons_of_mem _ hmem, hresult⟩

/-- Steps that have a result whenever those that they follow do, have results together when those
do. -/
theorem exists_mapM_eq_some_of_forall₂ {α' β' : Type} {step' : α' → Option β'} {R : α → α' → Prop}
    {S : β → β' → Prop} {items' : List α'} (hitems : List.Forall₂ R items items')
    (hstep : ∀ item item' result, R item item' → step item = some result →
      ∃ result', step' item' = some result' ∧ S result result')
    (h : items.mapM step = some results) :
    ∃ results', items'.mapM step' = some results' ∧ List.Forall₂ S results results' := by
  induction hitems generalizing results with
  | nil =>
    obtain rfl := Option.some.inj h
    exact ⟨[], rfl, .nil⟩
  | cons hitem _ ih =>
    cases mapM_eq_some_iff.mp h with
    | cons hfirst hothers =>
      obtain ⟨first, hfirst', hsame⟩ := hstep _ _ _ hitem hfirst
      obtain ⟨others, hothers', hrest⟩ := ih (mapM_eq_some_iff.mpr hothers)
      exact ⟨first :: others, mapM_eq_some_iff.mpr (.cons hfirst' (mapM_eq_some_iff.mp hothers')),
        .cons hsame hrest⟩

end Option

namespace TypeExport.Report

variable {ε α β : Type} {P : α → Prop} {Q : β → Prop}

/-- The report succeeds, and its value satisfies a predicate. -/
def Yields (P : α → Prop) (report : Report ε α) : Prop :=
  ∃ value, report.outcome = .ok value ∧ P value

/-- A report of a value yields what holds of the value. -/
theorem yields_pure {value : α} (h : P value) : (pure value : Report ε α).Yields P :=
  ⟨value, rfl, h⟩

/-- The next step may rely on what the step before yields. -/
theorem Yields.bind {report : Report ε α} {next : α → Report ε β} (h : report.Yields P)
    (hnext : ∀ value, P value → (next value).Yields Q) : (report >>= next).Yields Q := by
  obtain ⟨notices, outcome⟩ := report
  obtain ⟨value, rfl, hvalue⟩ : ∃ value, outcome = .ok value ∧ P value := h
  obtain ⟨result, hresult, hQ⟩ := hnext value hvalue
  exact ⟨result, hresult, hQ⟩

/-! ### Sequences of reports -/

instance : LawfulMonad (Report ε) :=
  LawfulMonad.mk' (Report ε)
    (by
      rintro α ⟨notices, outcome⟩
      cases outcome <;> simp [Functor.map, Report.bind, Report.pure])
    (by intro α β value next; rfl)
    (by
      rintro α β γ ⟨notices, outcome⟩ next last
      cases outcome with
      | error error => rfl
      | ok value =>
        simp only [bind, Report.bind]
        cases (next value).outcome <;> simp)

/-- The outcome of a value is the value. -/
@[simp] theorem outcome_pure (value : α) : (pure value : Report ε α).outcome = .ok value :=
  rfl

/-- The outcome of two reports, one after the other, is that of their outcomes. -/
@[simp] theorem outcome_bind (report : Report ε α) (next : α → Report ε β) :
    (report >>= next).outcome = report.outcome >>= fun value => (next value).outcome := by
  obtain ⟨notices, outcome⟩ := report
  cases outcome <;> rfl

/-- The outcome of reports over a list is that of their outcomes over the list. -/
theorem outcome_mapM (step : α → Report ε β) (items : List α) :
    (items.mapM step).outcome = items.mapM fun item => (step item).outcome := by
  induction items with
  | nil => rfl
  | cons item items ih => simp only [List.mapM_cons, outcome_bind, ih, outcome_pure]; rfl

end TypeExport.Report
