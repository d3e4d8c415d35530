import TypeExport.Proofs.Reflection.Display
import TypeExport.Proofs.Shape.Selection
import Mathlib.Algebra.BigOperators.Group.Finset.Basic
import Mathlib.Algebra.Order.BigOperators.Group.Finset

/-!
# The guard against repetitions

While a type is being classified it is kept in a guard, and a type that is met again while it is in
the guard has no shape.  This file has the classification with its guard step by step: it ends, it
leaves the guard as it was, and its outcome is the one that is taken from the tree of the type,
which is cut where a type is met again.

* `TypeGraph.guarded` — classification with a guard, down to some depth of nesting.
* `TypeGraph.guarded_restores` — the guard is the same before and after.
* `TypeGraph.typeCount`, `TypeGraph.guarded_ends` — a depth that is always enough.
* `TypeGraph.NamesEnd` — the display names that a classification needs come to an end.
* `TypeGraph.guarded_eq_classify` — the outcome is the shape or the error of the type.
-/

namespace TypeExport

open Relation (TransGen ReflTransGen)

/-! ### Classification with a guard -/

namespace TypeRef

/-- The types that are being classified, without the type. -/
def closing (guard : Finset Nat) : TypeRef → Finset Nat
  | declared place => guard.erase place
  | _ => guard

/-- A type that was not in the guard is taken out again. -/
theorem closing_opening {guard : Finset Nat} {type : TypeRef} (h : ¬ type.IsOpen guard) :
    type.closing (type.opening guard) = guard := by
  cases type with
  | declared place => exact Finset.erase_insert h
  | named | parameter | array | generic => rfl

mutual

/-- The number of types that are written out in a reference. -/
def written : TypeRef → Nat
  | declared _ => 0
  | named _ _ | parameter _ => 1
  | array element => written element + 1
  | generic _ arguments => writtenAll arguments + 1

/-- The number of types that are written out in several references. -/
def writtenAll : List TypeRef → Nat
  | [] => 0
  | type :: rest => written type + writtenAll rest

end

/-- Each of several types is written with no more than all of them. -/
theorem written_le_of_mem {type : TypeRef} {types : List TypeRef} (h : type ∈ types) :
    type.written ≤ writtenAll types := by
  induction types with
  | nil => cases h
  | cons first rest ih =>
    rw [writtenAll]
    obtain rfl | h := List.mem_cons.mp h
    · exact Nat.le_add_right _ _
    · have hrest := ih h
      omega

end TypeRef

/-- An outcome with the guard that it leaves; nothing if the nesting was deeper than allowed. -/
abbrev Guarded (α : Type) : Type :=
  Option (Except ClassifyError α × Finset Nat)

/-- Classify parts from left to right up to the first failure. -/
def classifyEach (visit : TypeRef → Finset Nat → Guarded Shape) :
    List TypeRef → Finset Nat → Guarded (List Shape)
  | [], guard => some (.ok [], guard)
  | part :: rest, guard =>
    match visit part guard with
    | none => none
    | some (.error error, guard) => some (.error error, guard)
    | some (.ok shape, guard) =>
      (classifyEach visit rest guard).map fun (outcome, guard) =>
        (outcome.map (shape :: ·), guard)

namespace TypeGraph

/-- Classify a type by its rule while it is in the guard. -/
def byRule (graph : TypeGraph) (settings : Settings) (visit : TypeRef → Finset Nat → Guarded Shape)
    (type : TypeRef) (guard : Finset Nat) : Guarded Shape :=
  match graph.rule settings type with
  | .settled outcome => some (outcome, guard)
  | .composed form parts =>
    (classifyEach visit parts guard).map fun (outcome, guard) => (outcome.map form.compose, guard)
  | .unmatched => some (.ok (.unsupported (graph.tree type).displayName), guard)

/-- Classify a type with a guard: fail for a type that is in it, or else put the type into it,
classify the parts that the rule asks for, and take the type out again, whatever the outcome.
Types are nested in each other no deeper than `depth`. -/
def guarded (graph : TypeGraph) (settings : Settings) :
    Nat → TypeRef → Finset Nat → Guarded Shape
  | depth, type, guard =>
    if type.IsOpen guard then some (.error (.cycle (graph.facts type).fullName), guard)
    else
      match depth with
      | 0 => none
      | depth + 1 =>
        (graph.byRule settings (guarded graph settings depth) type (type.opening guard)).map
          fun (outcome, guard) => (outcome, type.closing guard)

variable {graph : TypeGraph} {settings : Settings} {type : TypeRef}

/-! ### Parts from left to right -/

section

variable {visit : TypeRef → Finset Nat → Guarded Shape} {guard after : Finset Nat}
  {parts : List TypeRef}

/-- The shape that a visit gives, if it does. -/
def shapeOf (visit : TypeRef → Finset Nat → Guarded Shape) (guard : Finset Nat) (part : TypeRef) :
    Shape :=
  match visit part guard with
  | some (.ok shape, _) => shape
  | _ => .parameter ""

/-- Either all parts have shapes, or the first part without one fails. -/
theorem classifyEach_cases
    (hrestores : ∀ part guard outcome after, visit part guard = some (outcome, after) →
      after = guard)
    {outcome : Except ClassifyError (List Shape)}
    (h : classifyEach visit parts guard = some (outcome, after)) :
    after = guard ∧
      (((∀ part ∈ parts, visit part guard = some (.ok (shapeOf visit guard part), guard)) ∧
          outcome = .ok (parts.map (shapeOf visit guard))) ∨
        ∃ before part rest error, parts = before ++ part :: rest ∧
          (∀ earlier ∈ before,
            visit earlier guard = some (.ok (shapeOf visit guard earlier), guard)) ∧
          visit part guard = some (.error error, guard) ∧ outcome = .error error) := by
  -- A part leaves the guard as it was, so the induction goes on with the same one.
  induction parts generalizing outcome after with
  | nil =>
    obtain ⟨rfl, rfl⟩ := Prod.mk.inj (Option.some.inj h)
    exact ⟨rfl, .inl ⟨List.forall_mem_nil _, rfl⟩⟩
  | cons part rest ih =>
    unfold classifyEach at h
    split at h
    · cases h
    · next error later hpart =>
      obtain ⟨rfl, rfl⟩ := Prod.mk.inj (Option.some.inj h)
      obtain rfl := hrestores part guard _ _ hpart
      exact ⟨rfl, .inr ⟨[], part, rest, error, rfl, List.forall_mem_nil _, hpart, rfl⟩⟩
    · next shape later hpart =>
      obtain rfl := hrestores part guard _ _ hpart
      have hshape : shapeOf visit later part = shape := by
        unfold shapeOf
        rw [hpart]
      rw [← hshape] at hpart
      obtain ⟨⟨others, last⟩, hothers, heq⟩ := Option.map_eq_some_iff.mp h
      obtain ⟨rfl, rfl⟩ := Prod.mk.inj heq
      obtain ⟨rfl, ⟨hall, rfl⟩ | ⟨before, failing, rest, error, rfl, hbefore, hfailing, rfl⟩⟩ :=
        ih hothers
      · refine ⟨rfl, .inl ⟨List.forall_mem_cons.mpr ⟨hpart, hall⟩, ?_⟩⟩
        rw [List.map_cons, hshape]
        rfl
      · exact ⟨rfl, .inr ⟨part :: before, failing, rest, error, rfl,
          List.forall_mem_cons.mpr ⟨hpart, hbefore⟩, hfailing, rfl⟩⟩

end

/-- Parts that are all visited are classified together. -/
theorem classifyEach_ends {visit : TypeRef → Finset Nat → Guarded Shape} {guard : Finset Nat}
    {parts : List TypeRef}
    (h : ∀ part ∈ parts, ∃ outcome, visit part guard = some (outcome, guard)) :
    ∃ outcome, classifyEach visit parts guard = some (outcome, guard) := by
  induction parts with
  | nil => exact ⟨_, rfl⟩
  | cons part rest ih =>
    obtain ⟨⟨outcome, hpart⟩, hrest⟩ := List.forall_mem_cons.mp h
    unfold classifyEach
    rw [hpart]
    -- A part that fails ends the visit; a shape is put before those of the other parts.
    cases outcome with
    | error error => exact ⟨_, rfl⟩
    | ok shape =>
      obtain ⟨others, hothers⟩ := ih hrest
      refine ⟨others.map (shape :: ·), ?_⟩
      show (classifyEach visit rest guard).map _ = _
      rw [hothers]
      rfl

/-! ### What one call does -/

variable {depth : Nat} {guard after : Finset Nat} {outcome : Except ClassifyError Shape}

/-- A type in the guard fails. -/
theorem guarded_of_isOpen (h : type.IsOpen guard) :
    graph.guarded settings depth type guard
      = some (.error (.cycle (graph.facts type).fullName), guard) := by
  unfold guarded
  rw [if_pos h]

/-- Without fuel, a type that is not open has no answer. -/
theorem guarded_zero (h : ¬ type.IsOpen guard) : graph.guarded settings 0 type guard = none := by
  unfold guarded
  rw [if_neg h]

/-- Any other type is classified by its rule, with the type in the guard. -/
theorem guarded_succ (h : ¬ type.IsOpen guard) :
    graph.guarded settings (depth + 1) type guard
      = (graph.byRule settings (graph.guarded settings depth) type (type.opening guard)).map
          fun (outcome, guard) => (outcome, type.closing guard) := by
  rw [guarded, if_neg h]

/-- **The guard is restored** by every call, whether it gives a shape or fails. -/
theorem guarded_restores (h : graph.guarded settings depth type guard = some (outcome, after)) :
    after = guard := by
  induction depth generalizing type guard outcome after with
  | zero =>
    by_cases hopen : type.IsOpen guard
    · rw [guarded_of_isOpen hopen] at h
      exact (Prod.mk.inj (Option.some.inj h)).2.symm
    · rw [guarded_zero hopen] at h
      cases h
  | succ depth ih =>
    by_cases hopen : type.IsOpen guard
    · rw [guarded_of_isOpen hopen] at h
      exact (Prod.mk.inj (Option.some.inj h)).2.symm
    · rw [guarded_succ hopen] at h
      obtain ⟨⟨inner, later⟩, hinner, heq⟩ := Option.map_eq_some_iff.mp h
      obtain ⟨rfl, rfl⟩ := Prod.mk.inj heq
      -- The parts restore the guard that has the type in it; then the type is taken out.
      have hlater : later = type.opening guard := by
        unfold byRule at hinner
        split at hinner
        · exact (Prod.mk.inj (Option.some.inj hinner)).2.symm
        · obtain ⟨⟨each, last⟩, heach, heq⟩ := Option.map_eq_some_iff.mp hinner
          obtain ⟨-, rfl⟩ := Prod.mk.inj heq
          exact (classifyEach_cases (fun _ _ _ _ => ih) heach).1
        · exact (Prod.mk.inj (Option.some.inj hinner)).2.symm
      rw [hlater]
      exact TypeRef.closing_opening hopen

/-- What a call for a type that is not in the guard may do: the rule settles the outcome, or no rule
applies, or the parts have shapes or the first part without one fails. -/
inductive Called (graph : TypeGraph) (settings : Settings) (depth : Nat) (guard : Finset Nat)
    (type : TypeRef) : Except ClassifyError Shape → Prop
  | settled {outcome : Except ClassifyError Shape} :
      graph.rule settings type = .settled outcome → Called graph settings depth guard type outcome
  | unmatched : graph.rule settings type = .unmatched →
      Called graph settings depth guard type (.ok (.unsupported (graph.tree type).displayName))
  | composed {form : Form} {parts : List TypeRef} (shape : TypeRef → Shape) :
      graph.rule settings type = .composed form parts →
      (∀ part ∈ parts, graph.guarded settings depth part (type.opening guard)
        = some (.ok (shape part), type.opening guard)) →
      Called graph settings depth guard type (.ok (form.compose (parts.map shape)))
  | failed {form : Form} {before rest : List TypeRef} {part : TypeRef} {error : ClassifyError}
      (shape : TypeRef → Shape) :
      graph.rule settings type = .composed form (before ++ part :: rest) →
      (∀ earlier ∈ before, graph.guarded settings depth earlier (type.opening guard)
        = some (.ok (shape earlier), type.opening guard)) →
      graph.guarded settings depth part (type.opening guard)
        = some (.error error, type.opening guard) →
      Called graph settings depth guard type (.error error)

/-- A call either meets a type that is in the guard, or it does what its rule says, with one level
of nesting less for the parts. -/
theorem guarded_cases (h : graph.guarded settings depth type guard = some (outcome, after)) :
    (type.IsOpen guard ∧ outcome = .error (.cycle (graph.facts type).fullName)) ∨
      ¬ type.IsOpen guard ∧ ∃ less, depth = less + 1 ∧
        Called graph settings less guard type outcome := by
  by_cases hopen : type.IsOpen guard
  · rw [guarded_of_isOpen hopen] at h
    exact .inl ⟨hopen, (Prod.mk.inj (Option.some.inj h)).1.symm⟩
  · refine .inr ⟨hopen, ?_⟩
    cases depth with
    | zero =>
      rw [guarded_zero hopen] at h
      cases h
    | succ less =>
      refine ⟨less, rfl, ?_⟩
      rw [guarded_succ hopen] at h
      obtain ⟨⟨inner, later⟩, hinner, heq⟩ := Option.map_eq_some_iff.mp h
      obtain ⟨rfl, -⟩ := Prod.mk.inj heq
      -- The rule has settled the type, asks for parts, or matches nothing.
      unfold byRule at hinner
      split at hinner
      · next settled hrule =>
        obtain ⟨rfl, -⟩ := Prod.mk.inj (Option.some.inj hinner)
        exact .settled hrule
      · next form parts hrule =>
        obtain ⟨⟨each, last⟩, heach, heq⟩ := Option.map_eq_some_iff.mp hinner
        obtain ⟨rfl, -⟩ := Prod.mk.inj heq
        obtain ⟨-, ⟨hall, rfl⟩ | ⟨before, part, rest, error, rfl, hbefore, hpart, rfl⟩⟩ :=
          classifyEach_cases (fun _ _ _ _ => guarded_restores) heach
        · exact .composed _ hrule hall
        · exact .failed _ hrule hbefore hpart
      · next hrule =>
        obtain ⟨rfl, -⟩ := Prod.mk.inj (Option.some.inj hinner)
        exact .unmatched hrule

/-! ### Depth -/

/-- The number of types that the entry at a place brings with it: its own and those that are written
out in it. -/
def countAt (graph : TypeGraph) (place : Nat) : Nat :=
  graph.entries[place]?.elim 0 fun entry =>
    entry.element?.elim 0 TypeRef.written + TypeRef.writtenAll entry.arguments + 1

/-- The number of types that are not in the guard: those written out in a reference and those of the
entries. -/
def remaining (graph : TypeGraph) (guard : Finset Nat) (type : TypeRef) : Nat :=
  type.written + ∑ place ∈ Finset.range graph.entries.length \ guard, graph.countAt place

/-- The number of types: those written out in a reference and those of all entries. -/
def typeCount (graph : TypeGraph) (type : TypeRef) : Nat :=
  graph.remaining ∅ type

/-- Less is written out in a part than in the whole, if the whole is written out. -/
theorem written_lt_of_builtFrom {part whole : TypeRef} (h : graph.BuiltFrom part whole)
    (hwhole : ∀ place, whole ≠ .declared place) : part.written < whole.written := by
  -- A part is the element of an array or an argument of a generic type.
  cases h with
  | element helement =>
    cases whole with
    | declared place => exact absurd rfl (hwhole place)
    | array element =>
      obtain rfl := Option.some.inj helement
      exact Nat.lt_succ_self _
    | named | parameter | generic => cases helement
  | argument hargument =>
    cases whole with
    | declared place => exact absurd rfl (hwhole place)
    | generic head arguments =>
      exact Nat.lt_succ_of_le (TypeRef.written_le_of_mem hargument)
    | named | parameter | array => cases hargument

/-- The entry of a declared type counts more than what is written out in a part. -/
theorem written_lt_countAt {part : TypeRef} {place : Nat}
    (h : graph.BuiltFrom part (.declared place)) : part.written < graph.countAt place := by
  unfold countAt
  cases h with
  | element helement =>
    unfold element? at helement
    obtain ⟨entry, hentry, helement⟩ := Option.bind_eq_some_iff.mp helement
    rw [hentry, Option.elim_some, helement, Option.elim_some]
    omega
  | argument hargument =>
    -- An argument comes from the entry, so there is one at the place.
    have hmem : part ∈ graph.entries[place]?.elim [] (·.arguments) := hargument
    cases hentry : graph.entries[place]? with
    | none =>
      rw [hentry] at hmem
      cases hmem
    | some entry =>
      rw [hentry] at hmem
      have hle := TypeRef.written_le_of_mem hmem
      rw [Option.elim_some] at hle ⊢
      omega

/-- Fewer types remain below a type that is put into the guard. -/
theorem remaining_lt {part whole : TypeRef} (hhas : graph.Has whole)
    (hopen : ¬ whole.IsOpen guard) (hpart : graph.BuiltFrom part whole) :
    graph.remaining (whole.opening guard) part < graph.remaining guard whole := by
  unfold remaining
  cases hhas with
  | @declared place hplace =>
    have hmem : place ∈ Finset.range graph.entries.length \ guard :=
      Finset.mem_sdiff.mpr ⟨Finset.mem_range.mpr hplace, hopen⟩
    -- The entry leaves the sum, which takes away more than the part adds.
    have hsum := Finset.add_sum_erase _ graph.countAt hmem
    have hcount := written_lt_countAt hpart
    rw [TypeRef.opening, Finset.sdiff_insert, ← hsum]
    simp only [TypeRef.written]
    omega
  | named | parameter | array | generic =>
    have hwritten := written_lt_of_builtFrom hpart fun _ hdeclared => by cases hdeclared
    simp only [TypeRef.opening]
    omega

/-- A type that is not in the guard remains. -/
theorem remaining_pos (hhas : graph.Has type) (hopen : ¬ type.IsOpen guard) :
    0 < graph.remaining guard type := by
  unfold remaining
  cases hhas with
  | @declared place hplace =>
    have hmem : place ∈ Finset.range graph.entries.length \ guard :=
      Finset.mem_sdiff.mpr ⟨Finset.mem_range.mpr hplace, hopen⟩
    have hcount : 0 < graph.countAt place := by
      unfold countAt
      rw [List.getElem?_eq_getElem hplace]
      exact Nat.succ_pos _
    -- The entry is among those that are summed up, and counts at least itself.
    rw [← Finset.add_sum_erase _ graph.countAt hmem]
    omega
  | named | parameter | array | generic => exact Nat.add_pos_left (Nat.succ_pos _) _

variable (settings) in
/-- **Classification ends**, with types nested in each other no deeper than there are types. -/
theorem guarded_ends (hclosed : graph.IsClosed) (hhas : graph.Has type)
    (hdepth : graph.remaining guard type ≤ depth) :
    ∃ outcome, graph.guarded settings depth type guard = some (outcome, guard) := by
  -- The induction is on the depth, which the types that remain bound.
  induction depth generalizing type guard with
  | zero =>
    by_cases hopen : type.IsOpen guard
    · exact ⟨_, guarded_of_isOpen hopen⟩
    · have hpos := remaining_pos hhas hopen
      omega
  | succ depth ih =>
    by_cases hopen : type.IsOpen guard
    · exact ⟨_, guarded_of_isOpen hopen⟩
    · -- The rule leaves the guard with the type in it; then the type is taken out.
      have hrule : ∃ outcome, graph.byRule settings (graph.guarded settings depth) type
          (type.opening guard) = some (outcome, type.opening guard) := by
        unfold byRule
        cases hrule : graph.rule settings type with
        | settled outcome => exact ⟨_, rfl⟩
        | unmatched => exact ⟨_, rfl⟩
        | composed form parts =>
          have hparts : ∀ part ∈ parts, ∃ outcome, graph.guarded settings depth part
              (type.opening guard) = some (outcome, type.opening guard) := by
            intro part hpart
            have hbuilt := builtFrom_of_rule hrule hpart
            have hlt := remaining_lt hhas hopen hbuilt
            exact ih (hclosed.has_part hhas hbuilt) (by omega)
          obtain ⟨outcome, houtcome⟩ := classifyEach_ends hparts
          refine ⟨outcome.map form.compose, ?_⟩
          dsimp only
          rw [houtcome]
          rfl
      obtain ⟨outcome, houtcome⟩ := hrule
      refine ⟨outcome, ?_⟩
      rw [guarded_succ hopen, houtcome]
      show some (outcome, type.closing (type.opening guard)) = _
      rw [TypeRef.closing_opening hopen]

/-! ### Guarded outcomes and shapes -/

/-- The display names of the types inside a type that no rule matches come to an end. -/
def NamesEnd (graph : TypeGraph) (settings : Settings) (type : TypeRef) : Prop :=
  ∀ part, ReflTransGen graph.BuiltFrom part type → graph.rule settings part = .unmatched →
    ∃ name, graph.DisplaysAs part name

/-- Where the names in a type end, so do those in its parts. -/
theorem NamesEnd.part {part : TypeRef} (h : graph.NamesEnd settings type)
    (hpart : graph.BuiltFrom part type) : graph.NamesEnd settings part :=
  fun other hother => h other (hother.tail hpart)

/-- The names in a type end if its own does, where it is asked for, and those in its parts do. -/
theorem namesEnd_of_parts
    (hname : graph.rule settings type = .unmatched → ∃ name, graph.DisplaysAs type name)
    (hparts : ∀ part, graph.BuiltFrom part type → graph.NamesEnd settings part) :
    graph.NamesEnd settings type := by
  intro part hpart
  obtain rfl | ⟨between, hbelow, hbetween⟩ := ReflTransGen.cases_tail hpart
  · exact hname
  · exact hparts between hbetween part hbelow

/-- What parts are composed to is decided by the parts up to the first failure. -/
theorem mapM_eq_error {answer : TypeRef → Except ClassifyError Shape} {before rest : List TypeRef}
    {part : TypeRef} {shape : TypeRef → Shape} {error : ClassifyError}
    (hbefore : ∀ earlier ∈ before, answer earlier = .ok (shape earlier))
    (hpart : answer part = .error error) :
    (before ++ part :: rest).mapM answer = .error error := by
  induction before with
  | nil =>
    rw [List.nil_append, List.mapM_cons, hpart]
    rfl
  | cons first before ih =>
    obtain ⟨hfirst, hbefore⟩ := List.forall_mem_cons.mp hbefore
    rw [List.cons_append, List.mapM_cons, hfirst, ih hbefore]
    rfl

/-- Parts that each have a shape have them together. -/
theorem mapM_eq_ok {answer : TypeRef → Except ClassifyError Shape} {parts : List TypeRef}
    {shape : TypeRef → Shape} (h : ∀ part ∈ parts, answer part = .ok (shape part)) :
    parts.mapM answer = .ok (parts.map shape) := by
  rw [Except.mapM_eq_ok_iff, List.forall₂_map_right_iff, List.forall₂_same]
  exact h

/-- A type in the guard fails in the tree, too. -/
theorem classify_treeWithin_of_isOpen {budget : Nat} {unfolding : List Nat}
    (h : type.IsOpen unfolding.toFinset) :
    (graph.treeWithin graph.shownAt budget unfolding type).classify settings
      = .error (.cycle (graph.facts type).fullName) := by
  cases type with
  | declared place =>
    have hfacts : graph.facts (.declared place) = graph.factsAt place := facts_declaredTree place
    rw [treeWithin_of_isOpen (List.mem_toFinset.mp h), hfacts]
    rfl
  | named | parameter | array | generic => cases h

/-- What a call does, the tree says, if that is so for the parts. -/
theorem Called.eq_classify {tree : TypeTree} {below : TypeRef → TypeTree}
    (hcalled : graph.Called settings depth guard type outcome)
    (htree : tree = .node (graph.facts type) ((graph.element? type).map below)
      ((graph.arguments type).map below))
    (hname : graph.rule settings type = .unmatched →
      tree.displayName = (graph.tree type).displayName)
    (hparts : ∀ part, graph.BuiltFrom part type → ∀ outcome after,
      graph.guarded settings depth part (type.opening guard) = some (outcome, after) →
        outcome = (below part).classify settings) :
    outcome = tree.classify settings := by
  rw [classify_eq_outcome htree]
  -- What the parts come to in the call is what their trees come to.
  cases hcalled with
  | settled hrule =>
    rw [hrule]
    rfl
  | unmatched hrule =>
    rw [hrule, ← hname hrule]
    rfl
  | @composed form parts shape hrule hshapes =>
    rw [hrule]
    have hall : ∀ part ∈ parts, (below part).classify settings = .ok (shape part) :=
      fun part hpart =>
        (hparts part (builtFrom_of_rule hrule hpart) _ _ (hshapes part hpart)).symm
    rw [Rule.outcome_map_composed, mapM_eq_ok hall]
    rfl
  | @failed form before rest part error shape hrule hshapes hfails =>
    rw [hrule]
    have hbefore : ∀ earlier ∈ before, (below earlier).classify settings = .ok (shape earlier) := by
      intro earlier hearlier
      have hbuilt := builtFrom_of_rule hrule (List.mem_append_left _ hearlier)
      exact (hparts earlier hbuilt _ _ (hshapes earlier hearlier)).symm
    have hpart : (below part).classify settings = .error error := by
      have hbuilt := builtFrom_of_rule hrule (List.mem_append_right _ List.mem_cons_self)
      exact (hparts part hbuilt _ _ hfails).symm
    rw [Rule.outcome_map_composed, mapM_eq_error hbefore hpart]
    rfl

/-- **The guarded outcome is that of the tree**, cut where types are in the guard. -/
theorem eq_classify_treeWithin (hclosed : graph.IsClosed) (hhas : graph.Has type)
    (hnames : graph.NamesEnd settings type) {budget : Nat} {unfolding : List Nat}
    (hroom : graph.Room budget unfolding)
    (h : graph.guarded settings depth type unfolding.toFinset = some (outcome, after)) :
    outcome = (graph.treeWithin graph.shownAt budget unfolding type).classify settings := by
  induction depth generalizing type budget unfolding outcome after with
  | zero =>
    obtain ⟨hopen, rfl⟩ | ⟨-, less, hless, -⟩ := guarded_cases h
    · exact (classify_treeWithin_of_isOpen hopen).symm
    · cases hless
  | succ depth ih =>
    obtain ⟨hopen, rfl⟩ | ⟨hopen, less, hless, hcalled⟩ := guarded_cases h
    · exact (classify_treeWithin_of_isOpen hopen).symm
    · obtain rfl := Nat.succ.inj hless
      obtain ⟨budget', unfolding', hroom', hunfolding, htree⟩ :=
        exists_treeWithin_eq_node hroom hhas hopen graph.shownAt
      -- The tree has the type on top, and below it the trees of its parts, cut at the larger guard.
      refine hcalled.eq_classify htree (fun hrule => ?_)
        fun part hpart outcome after hpartCall => ?_
      · obtain ⟨name, hname⟩ := hnames type .refl hrule
        rw [displayName_treeWithin hclosed hhas hname hroom, displayName_tree hclosed hhas hname]
      · rw [← hunfolding] at hpartCall
        exact ih (hclosed.has_part hhas hpart) (hnames.part hpart) hroom' hpartCall

/-- **The guarded classification ends** with the shape or the error of the type. -/
theorem guarded_eq_classify (hclosed : graph.IsClosed) (hhas : graph.Has type)
    (hnames : graph.NamesEnd settings type) :
    graph.guarded settings (graph.typeCount type) type ∅
      = some (graph.classify settings type, ∅) := by
  obtain ⟨outcome, houtcome⟩ :=
    guarded_ends settings hclosed hhas (Nat.le_refl (graph.typeCount type))
  have hroot : graph.guarded settings (graph.typeCount type) type [].toFinset = some (outcome, ∅) :=
    houtcome
  have hclassify : outcome = graph.classify settings type :=
    eq_classify_treeWithin hclosed hhas hnames (room_nil graph) hroot
  rw [houtcome, hclassify]

end TypeGraph

end TypeExport
