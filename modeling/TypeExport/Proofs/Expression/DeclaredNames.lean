import TypeExport.Catalog.Read
import TypeExport.Proofs.Catalog.Places
import TypeExport.Proofs.Catalog.Shadowing

/-!
# Declared generic types by their full names

A generic type is constructed by its full name without the arity, applied to as many arguments as
the type has parameters.  Other types come first under that name: built-in ones with the same last
segment, the box, and an earlier declared type with the same name and another arity.

* `applied` — a name applied to the texts of its arguments.
* `Scope.parse_applied_eq_ok_iff` — what it denotes is what the name stands for with what the
  arguments denote.
* `Scope.Reaches` — nothing comes before a declared type under its name.
* `Scope.constructs_iff` — exactly then the type is constructed.
-/

namespace TypeExport

open Name (arityMark lastSegment withoutArity)

namespace Expression

/-! ### Applied names -/

/-- A text that is divided into tokens consists of them and of blanks. -/
theorem Lexes.spaced {text : List Char} {kinds : List TokenKind} (h : Lexes text kinds) :
    Spaced kinds text := by
  induction h with
  | nil => exact .nil
  | blank hblank _ ih => exact .blank hblank ih
  | symbol _ _ ih => exact .token (.symbol _) ih
  | @name word rest kinds _ _ ih =>
    have hspaced := Spaced.token (.name (.ofList word)) ih
    rwa [TokenKind.spelling, String.toList_ofList] at hspaced

/-- A name applied to the texts of its arguments. -/
def applied (name : String) (arguments : List String) : String :=
  name ++ "<" ++ ", ".intercalate arguments ++ ">"

/-- The arguments with their commas and the closing bracket. -/
theorem spaced_arguments {first : String} {firstSentence : Sentence} {others : List String}
    {sentences : List Sentence} (hfirst : Derives first firstSentence)
    (hothers : List.Forall₂ Derives others sentences) :
    Spaced (firstSentence.kinds ++ Sentence.otherKinds sentences)
      (", ".intercalate (first :: others) ++ ">").toList := by
  induction hothers generalizing first firstSentence with
  | nil =>
    rw [String.intercalate_singleton, String.toList_append]
    exact (Lexes.spaced hfirst).append (.token (.symbol '>') .nil)
  | cons hnext _ ih =>
    rw [String.intercalate_cons_cons, String.append_assoc, String.append_assoc,
      String.toList_append, String.toList_append]
    exact (Lexes.spaced hfirst).append
      (.token (.symbol ',') (.blank (by decide : Text.isBlank ' ' = true) (ih hnext)))

/-- Derived sentences have names that the tokenizer takes. -/
theorem allHaveNames_of_derives {texts : List String} {sentences : List Sentence}
    (h : List.Forall₂ Derives texts sentences) : Sentence.AllHaveNames sentences := by
  induction h with
  | nil => trivial
  | cons hfirst _ ih => exact ⟨Sentence.hasNames_of_kinds _ (Lexes.isDottedName hfirst), ih⟩

/-- A name applied to expressions is an expression. -/
theorem derives_applied {name : String} (hname : IsDottedName name.toList) {texts : List String}
    {sentences : List Sentence} (h : List.Forall₂ Derives texts sentences) (hne : texts ≠ []) :
    Derives (applied name texts) (.type name sentences []) := by
  refine Sentence.derives_of_spaced ⟨hname, allHaveNames_of_derives h⟩ ?_
  cases h with
  | nil => exact absurd rfl hne
  | cons hfirst hothers =>
    simp only [Sentence.kinds, Sentence.argumentKinds, List.flatMap_nil, List.append_nil]
    rw [applied, String.append_assoc, String.append_assoc, String.toList_append,
      String.toList_append]
    exact .token (.name name) (.token (.symbol '<') (spaced_arguments hfirst hothers))

namespace Scope

variable {scope : Scope} {name : String}

/-- Accepted texts are derived by sentences that denote the types of the texts. -/
theorem exists_sentences {texts : List String} {types : List TypeRef}
    (h : List.Forall₂ (fun text type => scope.parse text = .ok type) texts types) :
    ∃ sentences, List.Forall₂ Derives texts sentences ∧
      Sentence.evaluateAll scope sentences = .ok types := by
  induction h with
  | nil => exact ⟨[], .nil, rfl⟩
  | cons hfirst _ ih =>
    obtain ⟨sentence, hderives, hvalue⟩ := (parse_eq_ok_iff ..).mp hfirst
    obtain ⟨sentences, hothers, hvalues⟩ := ih
    exact ⟨sentence :: sentences, .cons hderives hothers,
      (Sentence.evaluateAll_cons_eq_ok_iff ..).mpr ⟨_, hvalue, _, hvalues, rfl⟩⟩

/-- **Applied names** denote what the name stands for with what its arguments denote. -/
theorem parse_applied_eq_ok_iff (hname : IsDottedName name.toList) {texts : List String}
    {types : List TypeRef}
    (harguments : List.Forall₂ (fun text type => scope.parse text = .ok type) texts types)
    (hne : texts ≠ []) (type : TypeRef) :
    scope.parse (applied name texts) = .ok type ↔ scope.resolveGeneric name types = .ok type := by
  obtain ⟨sentences, hsentences, hvalues⟩ := exists_sentences harguments
  have hderives := derives_applied hname hsentences hne
  have hresolve : scope.resolve name types = scope.resolveGeneric name types := by
    cases harguments with
    | nil => exact absurd rfl hne
    | cons => rfl
  rw [parse_eq_ok_iff, ← hresolve]
  constructor
  · rintro ⟨sentence, hderives', hvalue⟩
    -- The text has one derivation only, so it is the one put together from the arguments.
    obtain rfl := hderives'.unique hderives
    obtain ⟨types', htypes', head, hhead, rfl⟩ := (Sentence.evaluate_eq_ok_iff ..).mp hvalue
    obtain rfl : types = types' := Except.ok.inj (hvalues.symm.trans htypes')
    exact hhead
  · intro hhead
    exact ⟨_, hderives, (Sentence.evaluate_eq_ok_iff ..).mpr ⟨types, hvalues, type, hhead, rfl⟩⟩

/-! ### What comes before a declared type -/

/-- Built-in heads are in `System` or in the namespace of collections. -/
theorem space?_of_builtInHead? {simple : String} {arity : Nat} {head : GenericHead}
    (h : builtInHead? simple arity = some head) :
    head.space? = some "System" ∨ head.space? = some collectionsSpace := by
  unfold builtInHead? at h
  split_ifs at h <;> obtain rfl := Option.some.inj h
  · exact .inl rfl
  · exact .inr rfl
  · exact .inr rfl

/-- Under a name with a number of arguments nothing comes before the declared type at a place: the
name does not end like a built-in generic type with so many arguments, it is no name of the box, and
no earlier type has it as its full name without an arity. -/
structure Reaches (scope : Scope) (name : String) (arity place : Nat) : Prop where
  builtIn : builtInHead? (lastSegment name) arity = none
  box : arity = 1 → name ∉ boxNames scope.settings
  first : ¬ scope.catalog.IsShadowed name place

/-- A name that is no built-in one and not the box is looked up in the catalog. -/
theorem resolveGeneric_eq_declared {place : Nat} {arguments : List TypeRef}
    (hbuiltIn : builtInHead? (lastSegment name) arguments.length = none)
    (hbox : arguments.length = 1 → name ∉ boxNames scope.settings)
    (hfind : scope.catalog.find? name = some place)
    (harity : (scope.catalog.graph.factsAt place).parameters.length = arguments.length) :
    scope.resolveGeneric name arguments
      = .ok (.generic (declaredHead (scope.catalog.graph.factsAt place)) arguments) := by
  unfold builtInHead? at hbuiltIn
  split_ifs at hbuiltIn with hnullable hcollection hdictionary
  have hhead : scope.genericHead? name arguments.length
      = some (declaredHead (scope.catalog.graph.factsAt place)) := by
    have hnobox : ¬ (name ∈ boxNames scope.settings ∧ arguments.length = 1) :=
      fun h => hbox h.2 h.1
    simp only [genericHead?, Bool.and_eq_true, List.contains_eq_mem, decide_eq_true_eq, beq_iff_eq,
      if_neg hcollection, if_neg hdictionary, if_neg hnobox, hfind, if_pos harity]
  rw [resolveGeneric_eq, if_neg hnullable, hhead]

end Scope

/-! ### Full names -/

/-- Dotted names with a dot between them are a dotted name. -/
theorem IsDottedName.append {front back : List Char} (hfront : IsDottedName front)
    (hback : IsDottedName back) : IsDottedName (front ++ '.' :: back) := by
  obtain ⟨first, others, hfirst, hothers, rfl⟩ := hfront
  obtain ⟨next, more, hnext, hmore, rfl⟩ := hback
  refine ⟨first, others ++ next :: more, hfirst, fun segment hsegment => ?_, by simp⟩
  obtain hsegment | hsegment := List.mem_append.mp hsegment
  · exact hothers segment hsegment
  · obtain rfl | hsegment := List.mem_cons.mp hsegment
    · exact hnext
    · exact hmore segment hsegment

/-- A dotted name stays one behind a dotted namespace. -/
theorem isDottedName_qualified {space? : Option String} {name : String}
    (hspace : ∀ space ∈ space?, IsDottedName space.toList) (hname : IsDottedName name.toList) :
    IsDottedName (qualified space? name).toList := by
  unfold qualified
  split
  · exact hname
  · next space =>
    split
    · exact hname
    · have happend := (hspace space rfl).append hname
      simpa using happend

/-- A generic type that is declared under a name has that name in its namespace as its full name
without the arity. -/
theorem withoutArity_fullName {facts : TypeFacts} {name : String}
    (hfacts : facts.name = Catalog.arityName name facts.parameters)
    (hparameters : facts.parameters ≠ [])
    (hname : arityMark ∉ (qualified facts.space? name).toList) :
    withoutArity facts.fullName = qualified facts.space? name := by
  rw [TypeFacts.fullName, hfacts, Catalog.arityName, if_neg (by simpa using hparameters),
    Name.qualified_append, Name.qualified_append, Name.withoutArity_append hname]

/-! ### Declared generic types -/

namespace Scope

variable {scope : Scope} {name : String} {place : Nat} {entry : TypeEntry}

/-- **Declared generic types by their full names.**  In a catalog whose types have distinct full
names, the full name of a generic type without its arity, applied to as many expressions as the type
has parameters, denotes the type constructed from it exactly if nothing comes before the type. -/
theorem constructs_iff (hdistinct : scope.catalog.HasDistinctFullNames)
    (hentry : scope.catalog.graph.entries[place]? = some entry)
    (hfacts : entry.facts.name = Catalog.arityName name entry.facts.parameters)
    (hname : IsDottedName name.toList)
    (hspace : ∀ space ∈ entry.facts.space?, IsDottedName space.toList)
    (hparameters : entry.facts.parameters ≠ [])
    (hsystem : entry.facts.space? ≠ some "System")
    (hcollections : entry.facts.space? ≠ some collectionsSpace)
    (hbox : entry.facts.fullName ≠ scope.settings.boxDefinition)
    {texts : List String} {types : List TypeRef}
    (harguments : List.Forall₂ (fun text type => scope.parse text = .ok type) texts types)
    (hlength : texts.length = entry.facts.parameters.length) :
    scope.parse (applied (qualified entry.facts.space? name) texts)
        = .ok (.generic (declaredHead entry.facts) types) ↔
      scope.Reaches (qualified entry.facts.space? name) entry.facts.parameters.length place := by
  have hdotted := isDottedName_qualified hspace hname
  have hplain := withoutArity_fullName hfacts hparameters hdotted.arityMark_notMem
  have hnames : Catalog.isFullName (qualified entry.facts.space? name) entry.facts = true :=
    (Catalog.isFullName_iff hdotted.arityMark_notMem _).mpr hplain
  have hcount : types.length = entry.facts.parameters.length :=
    harguments.length_eq.symm.trans hlength
  have hne : texts ≠ [] := by
    rintro rfl
    exact hparameters (List.length_eq_zero_iff.mp hlength.symm)
  rw [parse_applied_eq_ok_iff hdotted harguments hne]
  constructor
  · intro hresolved
    obtain ⟨head, htype, hhead⟩ := headOf_of_resolveGeneric hresolved
    obtain ⟨hsame, -⟩ := TypeRef.generic.inj htype
    rw [hcount] at hhead
    -- The head that is found is that of the type, so the rule for declared types has found it.
    cases hhead with
    | builtIn hbuiltIn =>
      rw [← hsame] at hbuiltIn
      obtain hspace' | hspace' := space?_of_builtInHead? hbuiltIn
      · exact absurd hspace' hsystem
      · exact absurd hspace' hcollections
    | box => exact absurd (congrArg GenericHead.definition hsame) hbox
    | @constructed found hbuiltIn hnobox hfind _ =>
      refine ⟨hbuiltIn, hnobox, ?_⟩
      rintro ⟨earlier, hearlier, other, hother, hshadow⟩
      obtain ⟨foundEntry, hfound, -⟩ := Catalog.find?_eq_some hfind
      rw [Catalog.factsAt_of_getElem? hfound] at hsame
      obtain rfl : place = found :=
        hdistinct.place_eq hentry hfound (congrArg GenericHead.definition hsame)
      obtain ⟨first, hle, -, -, -, hfirst⟩ := Catalog.exists_first _ hother
        ((Catalog.isFullName_iff hdotted.arityMark_notMem _).mpr hshadow)
      obtain rfl : first = place := Option.some.inj (hfirst.symm.trans hfind)
      exact absurd hearlier hle.not_gt
  · rintro ⟨hbuiltIn, hnobox, hfirst⟩
    have hfind : scope.catalog.find? (qualified entry.facts.space? name) = some place := by
      refine Catalog.find?_eq_of_first hentry hnames fun earlier hearlier other hother => ?_
      rw [← Bool.not_eq_true, Catalog.isFullName_iff hdotted.arityMark_notMem]
      exact fun hshadow => hfirst ⟨earlier, hearlier, other, hother, hshadow⟩
    have hplace := Catalog.factsAt_of_getElem? hentry
    rw [← hcount] at hbuiltIn hnobox
    rw [resolveGeneric_eq_declared hbuiltIn hnobox hfind (by rw [hplace, hcount]), hplace]

/-! ### Pairs -/

/-- Two generic types that have the same name. -/
def pairs : Scope where
  catalog.graph.entries := [
    { facts := { name := "Pair`1", space? := some "Rock.Model", parameters := ["T"] } },
    { facts := { name := "Pair`2", space? := some "Rock.Model", parameters := ["K", "V"] } }]

/-- The first type is constructed, the one behind it is not. -/
theorem constructs_pairs :
    pairs.parse "Rock.Model.Pair<int>"
        = .ok (.generic
          (declaredHead { name := "Pair`1", space? := some "Rock.Model", parameters := ["T"] })
          [.system "Int32"]) ∧
      pairs.parse "Rock.Model.Pair<int, string>"
        ≠ .ok (.generic
          (declaredHead { name := "Pair`2", space? := some "Rock.Model", parameters := ["K", "V"] })
          [.system "Int32", .system "String"]) := by
  have hdistinct : pairs.catalog.HasDistinctFullNames := by decide +kernel
  have hfirst : pairs.catalog.graph.entries[0]? = some
      { facts := { name := "Pair`1", space? := some "Rock.Model", parameters := ["T"] } } := rfl
  have hsecond : pairs.catalog.graph.entries[1]? = some
      { facts := { name := "Pair`2", space? := some "Rock.Model", parameters := ["K", "V"] } } :=
    rfl
  have hname : IsDottedName "Pair".toList := IsSegment.isDottedName (by decide)
  have hspace : ∀ space ∈ some "Rock.Model", IsDottedName space.toList := by
    intro space hspace
    obtain rfl := Option.mem_some_iff.mp hspace
    exact ⟨"Rock".toList, ["Model".toList], by decide, by decide, by decide⟩
  have hint : pairs.parse "int" = .ok (.system "Int32") := by
    have hscan : Token.scan "int".toList = .ok [⟨.name "int", 1⟩] := by decide
    exact parse_of_scan hscan rfl
  have hstring : pairs.parse "string" = .ok (.system "String") := by
    have hscan : Token.scan "string".toList = .ok [⟨.name "string", 1⟩] := by decide
    exact parse_of_scan hscan rfl
  constructor
  · refine (constructs_iff hdistinct hfirst rfl hname hspace (by decide) (by decide) (by decide)
      (by decide) (.cons hint .nil) rfl).mpr ⟨by decide, fun _ => by decide, ?_⟩
    -- Nothing stands before the first type.
    rintro ⟨earlier, hearlier, -⟩
    exact absurd hearlier (Nat.not_lt_zero _)
  · intro hconstructs
    have hreaches := (constructs_iff hdistinct hsecond rfl hname hspace (by decide) (by decide)
      (by decide) (by decide) (.cons hint (.cons hstring .nil)) rfl).mp hconstructs
    -- The first type stands before the second one and has its name, but for the arity.
    exact hreaches.first ⟨0, Nat.one_pos, _, hfirst, by decide +kernel⟩

/-- A catalog with two generic types that have the same name. -/
def pairsText : String :=
  "types:\n"
    ++ "  - name: Pair\n"
    ++ "    namespace: Rock.Model\n"
    ++ "    type-parameters: [T]\n"
    ++ "  - name: Pair\n"
    ++ "    namespace: Rock.Model\n"
    ++ "    type-parameters: [K, V]\n"

/-- A declared generic type is not always constructed by its full name. -/
theorem pair_unreachable : ∃ catalog, Catalog.read {} "pairs.yaml" pairsText = .ok catalog ∧
    catalog.HasDistinctFullNames ∧
    (∃ entry ∈ catalog.graph.entries, entry.facts.fullName = "Rock.Model.Pair`2" ∧
      entry.facts.parameters.length = 2) ∧
    (parse { catalog } "int").isOk ∧ (parse { catalog } "string").isOk ∧
    (parse { catalog } "Rock.Model.Pair<int, string>").isOk = false := by
  have hread : (Catalog.read {} "pairs.yaml" pairsText).toOption.any (fun catalog =>
      decide catalog.HasDistinctFullNames &&
      (catalog.graph.entries.any fun entry => entry.facts.fullName = "Rock.Model.Pair`2" &&
        entry.facts.parameters.length = 2) &&
      (parse { catalog } "int").isOk && (parse { catalog } "string").isOk &&
      !(parse { catalog } "Rock.Model.Pair<int, string>").isOk) = true := by
    decide +kernel
  obtain ⟨catalog, hcatalog, hholds⟩ := Except.exists_of_any hread
  refine ⟨catalog, hcatalog, ?_⟩
  simpa [and_assoc] using hholds

end Scope

end Expression

end TypeExport
