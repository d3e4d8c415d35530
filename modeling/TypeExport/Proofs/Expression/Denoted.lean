import TypeExport.Proofs.Expression.Spelling
import TypeExport.Proofs.Reflection.Nesting

/-!
# Denoted types

The types that type expressions can denote, as a judgement that follows the way in which they are
built: a name that resolves, applied to denoted types, and the marks behind it.

* `PlainlyResolved`, `HeadOf` — what a name stands for without and with arguments, and which rules
  were passed over before.
* `Resolved` — what a name stands for, case by case (`resolved_of_resolve`).
* `Denoted` — the types that are built from names and marks.
* `Kept`, `Kept.of_parse` — what names and marks keep holds of what accepted texts denote;
  in particular, this is built from names and marks (`denoted_of_parse`).
* `has_of_denoted` — denoted types are types of the graph of the scope.
* `parse_of_scan` — a text denotes what its tokens do.
-/

namespace TypeExport.Expression

open Name (lastSegment parentSpace)

/-! ### Names -/

/-- The type of the namespace `System` that a name stands for without looking into the catalog. -/
def builtIn? (name : String) : Option String :=
  (keywords.lookup name).or
    ((systemName? name).filter fun rest => (keywords.map (·.2)).contains rest)

/-- What a name without arguments stands for. -/
inductive PlainlyResolved (scope : Scope) (name : String) : TypeRef → Prop
  | parameter : name ∈ scope.parameters → PlainlyResolved scope name (.parameter name)
  | system {system : String} : system ∈ keywords.map (·.2) →
      PlainlyResolved scope name (.system system)
  | declared {place : Nat} : builtIn? name = none → scope.catalog.find? name = some place →
      PlainlyResolved scope name (.declared place)
  | named : builtIn? name = none → scope.catalog.find? name = none → '.' ∈ name.toList →
      PlainlyResolved scope name (.named (lastSegment name) (some (parentSpace name)))

/-- The head of the nullable form of a type. -/
def nullableHead : GenericHead where
  name := "Nullable`1"
  space? := some "System"
  definition := TypeRef.nullableDefinition

/-- The head of the built-in generic type with a simple name and a number of arguments. -/
def builtInHead? (simple : String) (arity : Nat) : Option GenericHead :=
  if simple = "Nullable" ∧ arity = 1 then some nullableHead
  else if simple ∈ ["List", "ICollection", "HashSet"] ∧ arity = 1 then
    some (Scope.collectionHead (simple ++ "`1") [collectionInterface])
  else if simple ∈ ["Dictionary", "IDictionary"] ∧ arity = 2 then
    some (Scope.collectionHead (simple ++ "`2"))
  else none

/-- The head that a name with a number of arguments stands for. -/
inductive HeadOf (scope : Scope) (name : String) (arity : Nat) : GenericHead → Prop
  | builtIn {head : GenericHead} : builtInHead? (lastSegment name) arity = some head →
      HeadOf scope name arity head
  | box : builtInHead? (lastSegment name) arity = none →
      name ∈ Scope.boxNames scope.settings → arity = 1 →
        HeadOf scope name arity (Scope.boxHead scope.settings)
  | constructed {place : Nat} : builtInHead? (lastSegment name) arity = none →
      (arity = 1 → name ∉ Scope.boxNames scope.settings) →
        scope.catalog.find? name = some place →
          (scope.catalog.graph.factsAt place).parameters.length = arity →
            HeadOf scope name arity (Scope.declaredHead (scope.catalog.graph.factsAt place))

/-- What a name with arguments stands for.  A declared type is reached only by a name that is not
built-in. -/
inductive Resolved (scope : Scope) (name : String) (arguments : List TypeRef) : TypeRef → Prop
  | parameter : Resolved scope name arguments (.parameter name)
  | system {system : String} : system ∈ keywords.map (·.2) →
      Resolved scope name arguments (.system system)
  | declared {place : Nat} : builtIn? name = none → scope.catalog.find? name = some place →
      Resolved scope name arguments (.declared place)
  | named : Resolved scope name arguments (.named (lastSegment name) (some (parentSpace name)))
  | nullable {inner : TypeRef} : arguments = [inner] →
      Resolved scope name arguments (.nullable inner)
  | collection {simple : String} : simple ∈ ["List", "ICollection", "HashSet"] →
      Resolved scope name arguments
        (.generic (Scope.collectionHead (simple ++ "`1") [collectionInterface]) arguments)
  | dictionary {simple : String} : simple ∈ ["Dictionary", "IDictionary"] →
      Resolved scope name arguments (.generic (Scope.collectionHead (simple ++ "`2")) arguments)
  | box : Resolved scope name arguments (.generic (Scope.boxHead scope.settings) arguments)
  | constructed {place : Nat} : scope.catalog.find? name = some place → arguments ≠ [] →
      (scope.catalog.graph.factsAt place).parameters.length = arguments.length →
      (lastSegment name = "Nullable" → arguments.length ≠ 1) →
      (lastSegment name ∈ ["Dictionary", "IDictionary"] → arguments.length ≠ 2) →
        Resolved scope name arguments
          (.generic (Scope.declaredHead (scope.catalog.graph.factsAt place)) arguments)

variable {scope : Scope} {name : String} {arguments : List TypeRef} {type : TypeRef}

/-- **Names without arguments.** -/
theorem plainlyResolved_of_resolvePlain (h : scope.resolvePlain name = .ok type) :
    PlainlyResolved scope name type := by
  unfold Scope.resolvePlain at h
  -- The five places are asked in turn: parameters, keywords, system types, declared types, other
  -- names.
  split at h
  · next hparameter =>
    obtain rfl := Except.ok.inj h
    exact .parameter (by simpa using hparameter)
  · split at h
    · next system hlookup =>
      obtain rfl := Except.ok.inj h
      obtain ⟨front, back, hkeywords, -⟩ := List.lookup_eq_some_iff.mp hlookup
      exact .system (List.mem_map.mpr ⟨(name, system), by simp [hkeywords], rfl⟩)
    · next hlookup =>
      split at h
      · next system hsystem =>
        obtain rfl := Except.ok.inj h
        exact .system (by simpa using (Option.filter_eq_some_iff.mp hsystem).2)
      · next hsystem =>
        have hbuiltIn : builtIn? name = none := by rw [builtIn?, hlookup, hsystem, Option.or_none]
        split at h
        · next place hplace =>
          simp only at h
          split at h
          · obtain rfl := Except.ok.inj h
            exact .declared hbuiltIn hplace
          · cases h
        · next hnone =>
          split at h
          · next hdot =>
            obtain rfl := Except.ok.inj h
            exact .named hbuiltIn hnone (by simpa using hdot)
          · cases h

/-- A head that is found is one that the name has with so many arguments. -/
theorem headOf_of_genericHead? {arity : Nat} {head : GenericHead}
    (hnullable : ¬ (lastSegment name = "Nullable" ∧ arity = 1))
    (h : scope.genericHead? name arity = some head) : HeadOf scope name arity head := by
  simp only [Scope.genericHead?, Bool.and_eq_true, List.contains_eq_mem, decide_eq_true_eq,
    beq_iff_eq] at h
  -- Collections and dictionaries are built in, and come before the box.
  split_ifs at h with hcollection hdictionary hbox
  · refine .builtIn ?_
    rw [builtInHead?, if_neg hnullable, if_pos hcollection]
    exact h
  · refine .builtIn ?_
    rw [builtInHead?, if_neg hnullable, if_neg hcollection, if_pos hdictionary]
    exact h
  all_goals
    -- No built-in name: the box comes before the declared types.
    have hnone : builtInHead? (lastSegment name) arity = none := by
      rw [builtInHead?, if_neg hnullable, if_neg hcollection, if_neg hdictionary]
  · obtain rfl := Option.some.inj h
    exact .box hnone hbox.1 hbox.2
  · split at h
    · cases h
    · next place hplace =>
      split at h
      · next harity =>
        obtain rfl := Option.some.inj h
        exact .constructed hnone (fun hone hmem => hbox ⟨hmem, hone⟩) hplace harity
      · cases h

/-- **Names with arguments.** -/
theorem headOf_of_resolveGeneric (h : scope.resolveGeneric name arguments = .ok type) :
    ∃ head, type = .generic head arguments ∧ HeadOf scope name arguments.length head := by
  unfold Scope.resolveGeneric at h
  split at h
  · next hsimple =>
    obtain rfl := Except.ok.inj h
    refine ⟨nullableHead, rfl, .builtIn ?_⟩
    rw [hsimple]
    rfl
  -- Any other name has the head that is found for it, or fails.
  · next hnullable =>
    split at h
    · next head hhead =>
      obtain rfl := Except.ok.inj h
      refine ⟨head, rfl, headOf_of_genericHead? ?_ hhead⟩
      rintro ⟨hsimple, hone⟩
      obtain ⟨inner, rfl⟩ := List.length_eq_one_iff.mp hone
      exact hnullable inner hsimple rfl
    · cases h

/-- A head with its arguments resolves. -/
theorem resolved_of_headOf {head : GenericHead} (harguments : arguments ≠ [])
    (h : HeadOf scope name arguments.length head) :
    Resolved scope name arguments (.generic head arguments) := by
  cases h with
  | builtIn hhead =>
    unfold builtInHead? at hhead
    -- Which built-in head it is tells what it stands for.
    split_ifs at hhead with hnullable hcollection hdictionary
    · obtain rfl := Option.some.inj hhead
      obtain ⟨inner, rfl⟩ := List.length_eq_one_iff.mp hnullable.2
      exact .nullable rfl
    · obtain rfl := Option.some.inj hhead
      exact .collection hcollection.1
    · obtain rfl := Option.some.inj hhead
      exact .dictionary hdictionary.1
  | box => exact .box
  | constructed hnone _ hplace harity =>
    refine .constructed hplace harguments harity (fun hsimple hone => ?_) fun hsimple htwo => ?_
    · simp [builtInHead?, hsimple, hone] at hnone
    · simp [builtInHead?, hsimple, htwo] at hnone

/-- **What names stand for.** -/
theorem resolved_of_resolve (h : scope.resolve name arguments = .ok type) :
    Resolved scope name arguments type := by
  unfold Scope.resolve at h
  split at h
  · cases plainlyResolved_of_resolvePlain h with
    | parameter => exact .parameter
    | system hsystem => exact .system hsystem
    | declared hbuiltIn hplace => exact .declared hbuiltIn hplace
    | named => exact .named
  · next hne =>
    obtain ⟨head, rfl, hhead⟩ := headOf_of_resolveGeneric h
    exact resolved_of_headOf hne hhead

/-! ### Types -/

/-- The types that are built from names that resolve and from marks. -/
inductive Denoted (scope : Scope) : TypeRef → Prop
  | name {name : String} {arguments : List TypeRef} {type : TypeRef} :
      IsDottedName name.toList → (∀ argument ∈ arguments, Denoted scope argument) →
        Resolved scope name arguments type → Denoted scope type
  | nullable {inner : TypeRef} : Denoted scope inner → Denoted scope (.nullable inner)
  | array {element : TypeRef} : Denoted scope element → Denoted scope (.array element)

/-- What holds of the types that names and marks build, if it holds of those they are built from. -/
structure Kept (scope : Scope) (P : TypeRef → Prop) : Prop where
  name {name : String} {arguments : List TypeRef} {type : TypeRef} :
    IsDottedName name.toList → (∀ argument ∈ arguments, P argument) →
      scope.resolve name arguments = .ok type → P type
  nullable {inner : TypeRef} : P inner → P (.nullable inner)
  array {element : TypeRef} : P element → P (.array element)

/-- Being denoted is kept by names and marks. -/
theorem kept_denoted (scope : Scope) : Kept scope (Denoted scope) where
  name hname harguments hresolve := .name hname harguments (resolved_of_resolve hresolve)
  nullable := .nullable
  array := .array

variable {P : TypeRef → Prop}

/-- What is kept by one mark is kept by several. -/
theorem Kept.marks (hkept : Kept scope P) (marks : List Mark) (h : P type) :
    P (marks.foldl Mark.apply type) := by
  induction marks generalizing type with
  | nil => exact h
  | cons mark marks ih =>
    cases mark with
    | question => exact ih (hkept.nullable h)
    | brackets => exact ih (hkept.array h)

/-- The names among the tokens of a text are dotted names. -/
theorem Lexes.isDottedName {text : List Char} {kinds : List TokenKind} (h : Lexes text kinds) :
    ∀ name, .name name ∈ kinds → IsDottedName name.toList := by
  -- The induction is on how the text is divided.
  induction h with
  | nil => nofun
  | blank _ _ ih => exact ih
  | symbol _ _ ih => exact fun name hname => ih name (by simpa using hname)
  | name hword _ ih =>
    intro name hname
    rcases List.mem_cons.mp hname with heq | hname
    · obtain rfl := TokenKind.name.inj heq
      rw [String.toList_ofList]
      exact hword.1
    · exact ih name hname

namespace Sentence

mutual

/-- A sentence whose name tokens are dotted names has such names. -/
theorem hasNames_of_kinds (sentence : Sentence)
    (h : ∀ name, .name name ∈ sentence.kinds → IsDottedName name.toList) : sentence.HasNames := by
  obtain ⟨name, arguments, marks⟩ := sentence
  refine ⟨h name List.mem_cons_self, ?_⟩
  cases arguments with
  | nil => trivial
  | cons first others =>
    constructor
    · refine hasNames_of_kinds first fun name hname => h name ?_
      simp [kinds, argumentKinds, hname]
    · refine allHaveNames_of_otherKinds others fun name hname => h name ?_
      simp [kinds, argumentKinds, hname]

/-- The same holds for further arguments. -/
theorem allHaveNames_of_otherKinds (others : List Sentence)
    (h : ∀ name, .name name ∈ otherKinds others → IsDottedName name.toList) :
    AllHaveNames others := by
  cases others with
  | nil => trivial
  | cons next others =>
    constructor
    · refine hasNames_of_kinds next fun name hname => h name ?_
      simp [otherKinds, hname]
    · refine allHaveNames_of_otherKinds others fun name hname => h name ?_
      simp [otherKinds, hname]

end

mutual

/-- What is kept by every step holds of the value of a sentence. -/
theorem kept_of_evaluate (hkept : Kept scope P) (sentence : Sentence) (hnames : sentence.HasNames)
    {result : TypeRef} (h : sentence.evaluate scope = .ok result) : P result := by
  obtain ⟨name, arguments, marks⟩ := sentence
  obtain ⟨types, htypes, head, hhead, rfl⟩ := (evaluate_eq_ok_iff ..).mp h
  have harguments := kept_of_evaluateAll hkept arguments hnames.2 htypes
  exact hkept.marks marks (hkept.name hnames.1 harguments hhead)

/-- The same holds for the values of several sentences. -/
theorem kept_of_evaluateAll (hkept : Kept scope P) (sentences : List Sentence)
    (hnames : AllHaveNames sentences) {results : List TypeRef}
    (h : evaluateAll scope sentences = .ok results) : ∀ result ∈ results, P result := by
  cases sentences with
  | nil =>
    obtain rfl := Except.ok.inj h
    nofun
  | cons first others =>
    obtain ⟨result, hresult, results, hresults, rfl⟩ := (evaluateAll_cons_eq_ok_iff ..).mp h
    rw [List.forall_mem_cons]
    exact ⟨kept_of_evaluate hkept first hnames.1 hresult,
      kept_of_evaluateAll hkept others hnames.2 hresults⟩

end

end Sentence

/-- **Accepted texts** denote types of which everything holds that names and marks keep. -/
theorem Kept.of_parse (hkept : Kept scope P) {text : String} (h : scope.parse text = .ok type) :
    P type := by
  obtain ⟨sentence, hderives, hvalue⟩ := (parse_eq_ok_iff scope text type).mp h
  exact sentence.kept_of_evaluate hkept (sentence.hasNames_of_kinds hderives.isDottedName) hvalue

/-- Accepted texts denote types that are built from names and marks. -/
theorem denoted_of_parse {text : String} (h : scope.parse text = .ok type) :
    Denoted scope type :=
  (kept_denoted scope).of_parse h

/-- Expressions denote types of every graph that has as many entries as their catalog. -/
theorem has_of_denoted {graph : TypeGraph}
    (hlength : scope.catalog.graph.entries.length = graph.entries.length)
    (h : Denoted scope type) : graph.Has type := by
  induction h with
  | nullable _ ih =>
    refine .generic fun argument hargument => ?_
    obtain rfl := List.mem_singleton.mp hargument
    exact ih
  | array _ ih => exact .array ih
  | name _ _ hresolved ih =>
    cases hresolved with
    | parameter => exact .parameter
    | system | named => exact .named
    | declared _ hplace =>
      -- A declared type that is found has a place among the entries.
      obtain ⟨entry, hentry, -⟩ := Catalog.find?_eq_some hplace
      refine .declared ?_
      rw [← hlength]
      exact (List.getElem?_eq_some_iff.mp hentry).1
    | nullable harguments =>
      refine .generic fun argument hargument => ih argument ?_
      rwa [harguments]
    | collection | dictionary | box | constructed => exact .generic ih

/-- A text is read from its tokens. -/
theorem parse_of_scan {text : String} {tokens : List Token}
    (hscan : Token.scan text.toList = .ok tokens) (htokens : parseTokens scope tokens = .ok type) :
    scope.parse text = .ok type := by
  rw [Scope.parse, hscan]
  simp only [htokens]
  rfl

end TypeExport.Expression
