import TypeExport.Proofs.Shape.Guard

/-!
# Types that are met again

The rules without a guard ask for the parts of a type from left to right, for as long as the parts
in front have shapes.  They come to no end if a type is asked for while it is being classified.  The
guard finds the first such type, and where there is none it changes nothing.

* `TypeGraph.Unguarded` — the rules without a guard come to an end, and with which outcome.
* `TypeGraph.AskedBy` — one type is asked for on the way to the outcome of another one.
* `TypeGraph.Reenters` — the way down to a type that is being classified already.
* `TypeGraph.unguarded_or_reenters` — the guarded outcome is one of the two.
* `TypeGraph.guard_exact` — the guard is exact.
-/

namespace TypeExport

open Relation (TransGen ReflTransGen)

/-- Two elements of one list are the same one, or one of them is in front of the other one. -/
theorem mem_or_mem_or_eq_of_append_cons {α : Type} {before before' rest rest' : List α} {a a' : α}
    (h : before ++ a :: rest = before' ++ a' :: rest') :
    a ∈ before' ∨ a' ∈ before ∨ a = a' := by
  induction before generalizing before' with
  | nil =>
    cases before' with
    | nil => exact .inr (.inr (List.cons.inj h).1)
    | cons first before' =>
      obtain rfl : a = first := (List.cons.inj h).1
      exact .inl List.mem_cons_self
  | cons first before ih =>
    cases before' with
    | nil =>
      obtain rfl : first = a' := (List.cons.inj h).1
      exact .inr (.inl List.mem_cons_self)
    | cons first' before' =>
      obtain hmem | hmem | heq := ih (List.cons.inj h).2
      · exact .inl (List.mem_cons_of_mem _ hmem)
      · exact .inr (.inl (List.mem_cons_of_mem _ hmem))
      · exact .inr (.inr heq)

/-- What is reached from an accessible element is accessible. -/
theorem acc_of_reflTransGen {α : Type} {r : α → α → Prop} {a b : α} (h : Acc r a)
    (hbelow : ReflTransGen r b a) : Acc r b := by
  induction hbelow with
  | refl => exact h
  | tail _ hstep ih => exact ih (h.inv hstep)

namespace TypeGraph

variable {graph : TypeGraph} {settings : Settings} {type part : TypeRef}
  {outcome : Except ClassifyError Shape}

/-! ### The rules without a guard -/

/-- Without a guard, the rules for a type come to an end with an outcome.  A type that is asked for
while it is being classified has none. -/
inductive Unguarded (graph : TypeGraph) (settings : Settings) :
    TypeRef → Except ClassifyError Shape → Prop
  | settled {type : TypeRef} {outcome : Except ClassifyError Shape} :
      graph.rule settings type = .settled outcome → Unguarded graph settings type outcome
  | unmatched {type : TypeRef} {name : String} : graph.rule settings type = .unmatched →
      graph.DisplaysAs type name → Unguarded graph settings type (.ok (.unsupported name))
  | composed {type : TypeRef} {form : Form} {parts : List TypeRef} (shape : TypeRef → Shape) :
      graph.rule settings type = .composed form parts →
      (∀ part ∈ parts, Unguarded graph settings part (.ok (shape part))) →
      Unguarded graph settings type (.ok (form.compose (parts.map shape)))
  | failed {type : TypeRef} {form : Form} {before rest : List TypeRef} {part : TypeRef}
      {error : ClassifyError} (shape : TypeRef → Shape) :
      graph.rule settings type = .composed form (before ++ part :: rest) →
      (∀ earlier ∈ before, Unguarded graph settings earlier (.ok (shape earlier))) →
      Unguarded graph settings part (.error error) →
      Unguarded graph settings type (.error error)

/-- The rules have at most one outcome. -/
theorem Unguarded.eq {outcome' : Except ClassifyError Shape}
    (h : graph.Unguarded settings type outcome) (h' : graph.Unguarded settings type outcome') :
    outcome = outcome' := by
  -- The induction is on the first way in which the rules came to an end; both follow one rule.
  induction h generalizing outcome' with
  | settled hrule =>
    cases h' with
    | settled hrule' => exact Rule.settled.inj (hrule.symm.trans hrule')
    | unmatched hrule' | composed _ hrule' | failed _ hrule' => cases hrule.symm.trans hrule'
  | unmatched hrule hname =>
    cases h' with
    | unmatched _ hname' => rw [hname.eq hname']
    | settled hrule' | composed _ hrule' | failed _ hrule' => cases hrule.symm.trans hrule'
  | @composed type form parts shape hrule _ ih =>
    cases h' with
    | settled hrule' | unmatched hrule' => cases hrule.symm.trans hrule'
    | composed shape' hrule' hparts' =>
      obtain ⟨rfl, rfl⟩ := Rule.composed.inj (hrule.symm.trans hrule')
      have hshape : parts.map shape = parts.map shape' :=
        List.map_congr_left fun part hpart => Except.ok.inj (ih part hpart (hparts' part hpart))
      rw [hshape]
    | failed _ hrule' _ hpart' =>
      obtain ⟨rfl, rfl⟩ := Rule.composed.inj (hrule.symm.trans hrule')
      cases ih _ (List.mem_append_right _ List.mem_cons_self) hpart'
  | @failed type form before rest part error shape hrule _ _ ihbefore ihpart =>
    cases h' with
    | settled hrule' | unmatched hrule' => cases hrule.symm.trans hrule'
    | composed _ hrule' hparts' =>
      obtain ⟨rfl, rfl⟩ := Rule.composed.inj (hrule.symm.trans hrule')
      cases ihpart (hparts' part (List.mem_append_right _ List.mem_cons_self))
    | failed _ hrule' hbefore' hpart' =>
      -- The first part that fails is the same one.
      obtain ⟨-, hsplit⟩ := Rule.composed.inj (hrule.symm.trans hrule')
      obtain hmem | hmem | rfl := mem_or_mem_or_eq_of_append_cons hsplit
      · cases ihpart (hbefore' part hmem)
      · cases ihbefore _ hmem hpart'
      · exact congrArg _ (Except.error.inj (ihpart hpart'))

/-- Types whose rules need no part fail on account of a marker. -/
theorem failsOnly_of_settled (h : graph.rule settings type = .settled outcome) :
    outcome.FailsOnly ClassifyError.IsMetadata := by
  unfold rule at h
  -- What settles a type at once is a shape, or the rule for types without parts.
  obtain ⟨shape, rfl⟩ | hplain := eq_ok_or_plainRule_of_settled h
  · exact Except.failsOnly_ok shape
  · have houtcome : classifyPlain settings (.type (graph.facts type) []) = outcome := by
      rw [classifyPlain_eq, TypeTree.facts, plainRule_map (graph.classify settings), hplain]
      rfl
    rw [← houtcome]
    exact failsOnly_classifyPlain settings _

/-- Without a guard, the rules fail on account of a marker only. -/
theorem Unguarded.failsOnly (h : graph.Unguarded settings type outcome) :
    outcome.FailsOnly ClassifyError.IsMetadata := by
  induction h with
  | settled hrule => exact failsOnly_of_settled hrule
  | unmatched | composed => exact Except.failsOnly_ok _
  | failed _ _ _ _ _ ihpart =>
    intro error herror
    obtain rfl := Except.error.inj herror
    exact ihpart _ rfl

/-! ### The way down -/

/-- The rule for a type asks for a part of it, and the parts in front of that one have shapes. -/
inductive AskedBy (graph : TypeGraph) (settings : Settings) (part whole : TypeRef) : Prop
  | intro {form : Form} {before rest : List TypeRef} (shape : TypeRef → Shape) :
      graph.rule settings whole = .composed form (before ++ part :: rest) →
      (∀ earlier ∈ before, graph.Unguarded settings earlier (.ok (shape earlier))) →
      AskedBy graph settings part whole

/-- A type that is asked for is one that the asking type is built from. -/
theorem AskedBy.builtFrom (h : graph.AskedBy settings part type) : graph.BuiltFrom part type := by
  obtain ⟨_, hrule, _⟩ := h
  exact builtFrom_of_rule hrule (List.mem_append_right _ List.mem_cons_self)

/-- Only parts that the rule names are asked for. -/
theorem AskedBy.mem {form : Form} {parts : List TypeRef} (h : graph.AskedBy settings part type)
    (hrule : graph.rule settings type = .composed form parts) : part ∈ parts := by
  obtain ⟨_, hrule', _⟩ := h
  obtain ⟨-, rfl⟩ := Rule.composed.inj (hrule.symm.trans hrule')
  exact List.mem_append_right _ List.mem_cons_self

/-- No part behind one that fails is asked for. -/
theorem AskedBy.mem_or_eq {form : Form} {before rest : List TypeRef} {failing : TypeRef}
    {error : ClassifyError} (h : graph.AskedBy settings part type)
    (hrule : graph.rule settings type = .composed form (before ++ failing :: rest))
    (hfailing : graph.Unguarded settings failing (.error error)) :
    part ∈ before ∨ part = failing := by
  obtain ⟨_, hrule', hbefore'⟩ := h
  obtain ⟨-, hsplit⟩ := Rule.composed.inj (hrule.symm.trans hrule')
  obtain hmem | hmem | rfl := mem_or_mem_or_eq_of_append_cons hsplit
  · cases hfailing.eq (hbefore' failing hmem)
  · exact .inl hmem
  · exact .inr rfl

/-- Where the rules come to an end, there is no unending way down. -/
theorem Unguarded.acc (h : graph.Unguarded settings type outcome) :
    Acc (graph.AskedBy settings) type := by
  induction h with
  | settled hrule =>
    refine Acc.intro _ fun part ⟨_, hrule', _⟩ => ?_
    cases hrule.symm.trans hrule'
  | unmatched hrule =>
    refine Acc.intro _ fun part ⟨_, hrule', _⟩ => ?_
    cases hrule.symm.trans hrule'
  | composed _ hrule _ ih => exact Acc.intro _ fun part hpart => ih part (hpart.mem hrule)
  | failed _ hrule _ hfailing ihbefore ihfailing =>
    refine Acc.intro _ fun part hpart => ?_
    obtain hmem | rfl := hpart.mem_or_eq hrule hfailing
    -- A part was either classified before the first failure or is the one that failed.
    · exact ihbefore part hmem
    · exact ihfailing

/-- From a type that is being classified with those in the guard, the way down from left to right
comes to a declared type that is being classified already. -/
inductive Reenters (graph : TypeGraph) (settings : Settings) : Finset Nat → TypeRef → Nat → Prop
  | here {guard : Finset Nat} {place : Nat} : place ∈ guard →
      Reenters graph settings guard (.declared place) place
  | inside {guard : Finset Nat} {type part : TypeRef} {place : Nat} : ¬ type.IsOpen guard →
      graph.AskedBy settings part type → Reenters graph settings (type.opening guard) part place →
      Reenters graph settings guard type place

variable {guard : Finset Nat} {place : Nat}

/-- A place that is entered again is one that the type was reached from. -/
theorem Reenters.reached (h : graph.Reenters settings guard type place) :
    ReflTransGen (graph.AskedBy settings) (.declared place) type := by
  -- The induction is on the way down, which this follows upwards.
  induction h with
  | here => exact .refl
  | inside _ hpart _ ih => exact ih.tail hpart

/-- The type that is met again was in the guard from the start, or it is asked for by itself. -/
theorem Reenters.mem_or_loop (h : graph.Reenters settings guard type place) :
    place ∈ guard ∨ TransGen (graph.AskedBy settings) (.declared place) (.declared place) := by
  induction h with
  | here hplace => exact .inl hplace
  | inside _ hpart hbelow ih =>
    obtain hmem | hloop := ih
    -- Only the type itself has entered the guard since then.
    · obtain rfl | hmem := TypeRef.mem_opening.mp hmem
      · exact .inr (.tail' hbelow.reached hpart)
      · exact .inl hmem
    · exact .inr hloop

/-- A type is in the guard only while it is being classified: the way down goes on from it. -/
def IsTrail (graph : TypeGraph) (settings : Settings) (guard : Finset Nat)
    (type : TypeRef) : Prop :=
  ∀ place ∈ guard, TransGen (graph.AskedBy settings) type (.declared place)

/-- The empty guard is a trail to every type. -/
theorem isTrail_empty : graph.IsTrail settings ∅ type :=
  fun place hplace => absurd hplace (Finset.notMem_empty place)

/-- A trail goes on to a type that is asked for. -/
theorem IsTrail.opening (h : graph.IsTrail settings guard type)
    (hpart : graph.AskedBy settings part type) :
    graph.IsTrail settings (type.opening guard) part := by
  intro place hplace
  obtain rfl | hplace := TypeRef.mem_opening.mp hplace
  · exact .single hpart
  · exact (h place hplace).head hpart

/-- Where the rules without a guard come to an end, no type is met again. -/
theorem Unguarded.not_reenters (h : graph.Unguarded settings type outcome)
    (htrail : graph.IsTrail settings guard type) : ¬ graph.Reenters settings guard type place := by
  intro hreenters
  have hloop : TransGen (graph.AskedBy settings) (.declared place) (.declared place) := by
    obtain hmem | hloop := hreenters.mem_or_loop
    · exact .trans_right hreenters.reached (htrail place hmem)
    · exact hloop
  exact not_transGen_of_acc (acc_of_reflTransGen h.acc hreenters.reached) hloop

/-- The first type that is met again is determined. -/
theorem Reenters.eq {place' : Nat} (h : graph.Reenters settings guard type place)
    (h' : graph.Reenters settings guard type place')
    (htrail : graph.IsTrail settings guard type) : place = place' := by
  induction h with
  | here hplace =>
    cases h' with
    | here => rfl
    | inside hopen => exact absurd hplace hopen
  | inside hopen hpart hbelow ih =>
    cases h' with
    | here hplace' => exact absurd hplace' hopen
    | inside _ hpart' hbelow' =>
      obtain ⟨_, hrule, hbefore⟩ := hpart
      obtain ⟨_, hrule', hbefore'⟩ := hpart'
      obtain ⟨-, hsplit⟩ := Rule.composed.inj (hrule.symm.trans hrule')
      -- A part in front of the other one has a shape, so no type is met again below it.
      obtain hmem | hmem | rfl := mem_or_mem_or_eq_of_append_cons hsplit
      · have htrail := htrail.opening (.intro _ hrule hbefore)
        exact absurd hbelow ((hbefore' _ hmem).not_reenters htrail)
      · have htrail := htrail.opening (.intro _ hrule' hbefore')
        exact absurd hbelow' ((hbefore _ hmem).not_reenters htrail)
      · exact ih hbelow' (htrail.opening (.intro _ hrule hbefore))

/-! ### An array of itself behind a pair of leaves -/

/-- An array of itself, and a class that is built from nothing. -/
def rings : TypeGraph where
  entries := [
    { facts := { name := "Ring[]", space? := some "Sample", isArray := true }
      element? := some (.declared 0) },
    { facts := { name := "Leaf", space? := some "Sample" } }]

/-- A dictionary with keys and values of given types. -/
def dictionaryOf (key value : TypeRef) : TypeRef :=
  .generic
    { name := "Dictionary`2"
      space? := some "System.Collections.Generic"
      definition := "System.Collections.Generic.Dictionary`2" } [key, value]

/-- A dictionary that has the class at two places. -/
def leaves : TypeRef :=
  dictionaryOf (.declared 1) (.declared 1)

/-- The only part of a part in the graph is the array in itself. -/
theorem eq_of_builtFrom_rings {part : TypeRef} {place : Nat}
    (h : rings.BuiltFrom part (.declared place)) : part = .declared 0 := by
  match place with
  | 0 =>
    cases h with
    | element helement => exact (Option.some.inj helement).symm
    | argument hargument => cases hargument
  | 1 | _ + 2 =>
    cases h with
    | element helement => cases helement
    | argument hargument => cases hargument

/-- The graph of the two rings refers to nothing outside. -/
theorem isClosed_rings : rings.IsClosed := by
  intro place _ part hpart
  obtain rfl := eq_of_builtFrom_rings hpart
  exact .declared (by decide)

/-- The leaf shows its own name. -/
theorem displaysAs_leaf : rings.DisplaysAs (.declared 1) "Leaf" :=
  .intro (fun _ => "") nofun

/-- The leaf has no shape but the unsupported one. -/
theorem unguarded_leaf : rings.Unguarded {} (.declared 1) (.ok (.unsupported "Leaf")) :=
  .unmatched rfl displaysAs_leaf

/-- A dictionary of leaves has one of unsupported shapes. -/
theorem unguarded_leaves : rings.Unguarded {} leaves
    (.ok (.dictionary (.unsupported "Leaf") (.unsupported "Leaf"))) := by
  have hrule : rings.rule {} leaves = .composed .dictionary [.declared 1, .declared 1] := rfl
  refine .composed (fun _ => .unsupported "Leaf") hrule fun part hpart => ?_
  obtain rfl : part = .declared 1 := by simpa using hpart
  exact unguarded_leaf

/-- The array of itself has a rule, so its display name, which has no end, is not asked for. -/
theorem namesEnd_ring : rings.NamesEnd {} (.declared 0) := by
  intro part hpart
  -- Everything below the array is the array.
  have hring : part = .declared 0 := by
    induction hpart using ReflTransGen.head_induction_on with
    | refl => rfl
    | head hstep _ ih =>
      rw [ih] at hstep
      exact eq_of_builtFrom_rings hstep
  have hrule : rings.rule {} part = .composed .array [.declared 0] := by
    rw [hring]
    rfl
  exact fun hunmatched => nomatch hrule.symm.trans hunmatched

/-- The name of the leaf ends. -/
theorem namesEnd_leaf : rings.NamesEnd {} (.declared 1) := by
  refine namesEnd_of_parts (fun _ => ⟨"Leaf", displaysAs_leaf⟩) fun part hpart => ?_
  rw [eq_of_builtFrom_rings hpart]
  exact namesEnd_ring

/-- The name of a dictionary ends where those of its key and its value do. -/
theorem namesEnd_dictionaryOf {key value : TypeRef} (hkey : rings.NamesEnd {} key)
    (hvalue : rings.NamesEnd {} value) : rings.NamesEnd {} (dictionaryOf key value) := by
  have hrule : rings.rule {} (dictionaryOf key value) = .composed .dictionary [key, value] := rfl
  refine namesEnd_of_parts (fun hunmatched => nomatch hrule.symm.trans hunmatched) ?_
  intro part hpart
  -- A dictionary is built from its two arguments and has no element.
  cases hpart with
  | element helement => cases helement
  | argument hargument =>
    have hmem : part ∈ [key, value] := hargument
    obtain rfl | rfl : part = key ∨ part = value := by simpa using hmem
    · exact hkey
    · exact hvalue

/-- The array is met again inside itself, behind a dictionary that has a shape. -/
theorem reenters_rings : rings.Reenters {} ∅ (dictionaryOf leaves (.declared 0)) 0 := by
  have hdictionary : rings.rule {} (dictionaryOf leaves (.declared 0))
      = .composed .dictionary ([leaves] ++ [.declared 0]) := rfl
  have harray : rings.rule {} (.declared 0) = .composed .array ([] ++ [.declared 0]) := rfl
  -- The array is asked for behind the keys, which have a shape.
  have hfirst : rings.AskedBy {} (.declared 0) (dictionaryOf leaves (.declared 0)) := by
    refine .intro (fun _ => .dictionary (.unsupported "Leaf") (.unsupported "Leaf")) hdictionary
      fun earlier hearlier => ?_
    obtain rfl := List.mem_singleton.mp hearlier
    exact unguarded_leaves
  have hagain : rings.AskedBy {} (.declared 0) (.declared 0) :=
    .intro (fun _ => .parameter "") harray (List.forall_mem_nil _)
  exact .inside id hfirst (.inside (Finset.notMem_empty 0) hagain
    (.here (Finset.mem_insert_self 0 ∅)))

/-! ### What the guard finds -/

/-- An open type is entered again at once. -/
theorem exists_reenters_of_isOpen (hopen : type.IsOpen guard) :
    ∃ place, graph.Reenters settings guard type place ∧
      (.error (.cycle (graph.facts type).fullName) : Except ClassifyError Shape)
        = .error (.cycle (graph.factsAt place).fullName) := by
  cases type with
  | declared place =>
    have hfacts : graph.facts (.declared place) = graph.factsAt place := facts_declaredTree place
    refine ⟨place, .here hopen, ?_⟩
    rw [hfacts]
  | named | parameter | array | generic => cases hopen

/-- A guarded outcome is that of the rules without a guard, unless a type is met again. -/
theorem unguarded_or_reenters {depth : Nat} {after : Finset Nat} (hclosed : graph.IsClosed)
    (hhas : graph.Has type) (hnames : graph.NamesEnd settings type)
    (h : graph.guarded settings depth type guard = some (outcome, after)) :
    graph.Unguarded settings type outcome ∨
      ∃ place, graph.Reenters settings guard type place ∧
        outcome = .error (.cycle (graph.factsAt place).fullName) := by
  -- The induction is on the depth: a part has one level less and the type in its guard.
  induction depth generalizing type guard outcome after with
  | zero =>
    obtain ⟨hopen, rfl⟩ | ⟨-, less, hless, -⟩ := guarded_cases h
    · exact .inr (exists_reenters_of_isOpen hopen)
    · cases hless
  | succ depth ih =>
    obtain ⟨hopen, rfl⟩ | ⟨hopen, less, hless, hcalled⟩ := guarded_cases h
    · exact .inr (exists_reenters_of_isOpen hopen)
    · obtain rfl := Nat.succ.inj hless
      have hpart {part : TypeRef} (hbuilt : graph.BuiltFrom part type)
          {outcome : Except ClassifyError Shape} {after : Finset Nat}
          (hcall : graph.guarded settings depth part (type.opening guard) = some (outcome, after)) :
          graph.Unguarded settings part outcome ∨
            ∃ place, graph.Reenters settings (type.opening guard) part place ∧
              outcome = .error (.cycle (graph.factsAt place).fullName) :=
        ih (hclosed.has_part hhas hbuilt) (hnames.part hbuilt) hcall
      -- A part that has a shape has it without a guard.
      have hshape {part : TypeRef} {shape : Shape} {after : Finset Nat}
          (hbuilt : graph.BuiltFrom part type)
          (hcall : graph.guarded settings depth part (type.opening guard)
            = some (.ok shape, after)) : graph.Unguarded settings part (.ok shape) := by
        obtain hunguarded | ⟨_, _, herror⟩ := hpart hbuilt hcall
        · exact hunguarded
        · cases herror
      cases hcalled with
      | settled hrule => exact .inl (.settled hrule)
      | unmatched hrule =>
        obtain ⟨name, hname⟩ := hnames type .refl hrule
        rw [displayName_tree hclosed hhas hname]
        exact .inl (.unmatched hrule hname)
      | composed shape hrule hshapes =>
        refine .inl (.composed shape hrule fun part hmem => ?_)
        exact hshape (builtFrom_of_rule hrule hmem) (hshapes part hmem)
      | @failed form before rest part error shape hrule hshapes hfails =>
        have hbefore : ∀ earlier ∈ before,
            graph.Unguarded settings earlier (.ok (shape earlier)) := by
          intro earlier hmem
          have hbuilt := builtFrom_of_rule hrule (List.mem_append_left _ hmem)
          exact hshape hbuilt (hshapes earlier hmem)
        have hbuilt := builtFrom_of_rule hrule (List.mem_append_right _ List.mem_cons_self)
        obtain hunguarded | ⟨place, hreenters, herror⟩ := hpart hbuilt hfails
        · exact .inl (.failed shape hrule hbefore hunguarded)
        · obtain rfl := Except.error.inj herror
          exact .inr ⟨place, .inside hopen (.intro shape hrule hbefore) hreenters, rfl⟩

/-- **The guard is exact.**  In every closed graph in which the display names of the types that no
rule matches come to an end:

* the guarded classification ends, with types nested in each other no deeper than there are types,
  and its outcome is the shape or the error of the type;
* every call leaves the guard as it was;
* if no type is met again while it is being classified, the outcome is that of the rules without a
  guard, and it fails on account of a marker only;
* the error of a repetition names the first type that is met again, and is the outcome whenever
  there is one;
* a type that is met again is built from itself, so a type that only stands at two places is
  none. -/
theorem guard_exact (hclosed : graph.IsClosed) (hhas : graph.Has type)
    (hnames : graph.NamesEnd settings type) :
    graph.guarded settings (graph.typeCount type) type ∅
        = some (graph.classify settings type, ∅) ∧
      (∀ depth part guard outcome after,
        graph.guarded settings depth part guard = some (outcome, after) → after = guard) ∧
      ((¬ ∃ place, graph.Reenters settings ∅ type place) →
        (∀ outcome, graph.Unguarded settings type outcome ↔
          graph.classify settings type = outcome) ∧
        (graph.classify settings type).FailsOnly ClassifyError.IsMetadata) ∧
      (∀ name, graph.classify settings type = .error (.cycle name) ↔
        ∃ place, graph.Reenters settings ∅ type place ∧ (graph.factsAt place).fullName = name) ∧
      ∀ place, graph.Reenters settings ∅ type place →
        TransGen graph.BuiltFrom (.declared place) (.declared place) := by
  have hends : graph.guarded settings (graph.typeCount type) type ∅
      = some (graph.classify settings type, ∅) := guarded_eq_classify hclosed hhas hnames
  have houtcome := unguarded_or_reenters hclosed hhas hnames hends
  refine ⟨hends, fun _ _ _ _ _ => guarded_restores, fun hnone => ?_, fun name => ⟨fun h => ?_, ?_⟩,
    fun place hreenters => ?_⟩
  · obtain hunguarded | ⟨place, hreenters, -⟩ := houtcome
    · refine ⟨fun outcome => ⟨hunguarded.eq, ?_⟩, hunguarded.failsOnly⟩
      rintro rfl
      exact hunguarded
    · exact absurd ⟨place, hreenters⟩ hnone
  · obtain hunguarded | ⟨place, hreenters, herror⟩ := houtcome
    · exact absurd (hunguarded.failsOnly _ h) id
    · have hname := ClassifyError.cycle.inj (Except.error.inj (h.symm.trans herror))
      exact ⟨place, hreenters, hname.symm⟩
  · rintro ⟨place, hreenters, rfl⟩
    obtain hunguarded | ⟨first, hfirst, herror⟩ := houtcome
    · exact absurd hreenters (hunguarded.not_reenters isTrail_empty)
    · rw [herror, hfirst.eq hreenters isTrail_empty]
  · obtain hmem | hloop := hreenters.mem_or_loop
    · exact absurd hmem (Finset.notMem_empty place)
    · exact TransGen.mono (fun _ _ => AskedBy.builtFrom) _ _ hloop

/-- The class at two places does no harm, the array of itself has no shape. -/
theorem guard_exact_rings :
    rings.IsClosed ∧ rings.Has (dictionaryOf leaves (.declared 0)) ∧
      rings.NamesEnd {} (dictionaryOf leaves (.declared 0)) ∧
      rings.classify {} leaves = .ok (.dictionary (.unsupported "Leaf") (.unsupported "Leaf")) ∧
      rings.classify {} (dictionaryOf leaves (.declared 0)) = .error (.cycle "Sample.Ring[]") := by
  have hleaf : rings.Has (.declared 1) := .declared (by decide)
  have hleaves : rings.Has leaves := .generic fun argument hargument => by
    obtain rfl : argument = .declared 1 := by simpa using hargument
    exact hleaf
  have hboth : rings.Has (dictionaryOf leaves (.declared 0)) :=
    .generic fun argument hargument => by
      obtain rfl | rfl : argument = leaves ∨ argument = .declared 0 := by simpa using hargument
      · exact hleaves
      · exact .declared (by decide)
  have hpairNames : rings.NamesEnd {} leaves :=
    namesEnd_dictionaryOf namesEnd_leaf namesEnd_leaf
  have hnames := namesEnd_dictionaryOf hpairNames namesEnd_ring
  have hpair := guard_exact isClosed_rings hleaves hpairNames
  have hring := guard_exact isClosed_rings hboth hnames
  refine ⟨isClosed_rings, hboth, hnames, ?_, ?_⟩
  · have hnone : ¬ ∃ place, rings.Reenters {} ∅ leaves place :=
      fun ⟨_, hreenters⟩ => unguarded_leaves.not_reenters isTrail_empty hreenters
    exact ((hpair.2.2.1 hnone).1 _).mp unguarded_leaves
  · exact (hring.2.2.2.1 _).mpr ⟨0, reenters_rings, rfl⟩

end TypeGraph

end TypeExport
