import TypeExport.Proofs.Expression.Spelling
import TypeExport.Proofs.Shape.Constructed

/-!
# The canonical form of built-in types

Without declared types, a type expression is built from keywords, type parameters, marks and the
built-in generic types.  Reading it, classifying what it denotes and writing the C# type of the
shape amounts to printing the expression in one canonical form.

* `Sentence.IsBuiltIn` — built from keywords, type parameters and the built-in generic types.
* `Sentence.canonical` — lists and dictionaries under one name each, nullable types by a mark.
* `Sentence.IsCanonical`, `canonical_eq_self` — the canonical form is reached in one step.
* `WrittenAs type text` — the type has a shape whose C# type is the text.
* `writtenAs_canonical` — a built-in sentence denotes a type that is written in canonical form.
* `cSharpText_canonical` — hence so does every spelling of it, and writing it again changes nothing.
-/

namespace TypeExport.Expression

/-! ### Built-in types and their canonical form -/

/-- The built-in generic types with one argument. -/
def unaryHeads : List String := ["Nullable", "List", "ICollection", "HashSet", "ValidPropertiesBox"]

/-- The built-in generic types with two arguments. -/
def binaryHeads : List String := ["Dictionary", "IDictionary"]

namespace Sentence

/-- A keyword, or an identifier among the type parameters. -/
def IsPlainName (parameters : List String) (name : String) : Prop :=
  name ∈ keywords.map (·.1) ∨ name ∈ parameters ∧ IsSegment name.toList

/-- Built from keywords, type parameters, marks and the built-in generic types. -/
inductive IsBuiltIn (parameters : List String) : Sentence → Prop
  | plain {name : String} (marks : List Mark) :
      IsPlainName parameters name → IsBuiltIn parameters (type name [] marks)
  | unary {name : String} {element : Sentence} (marks : List Mark) :
      name ∈ unaryHeads → IsBuiltIn parameters element →
        IsBuiltIn parameters (type name [element] marks)
  | binary {name : String} {key value : Sentence} (marks : List Mark) :
      name ∈ binaryHeads → IsBuiltIn parameters key → IsBuiltIn parameters value →
        IsBuiltIn parameters (type name [key, value] marks)

/-- A head with arguments in canonical form.  The mark of a nullable type stands behind the marks of
the type that it makes nullable. -/
def canonicalApply : String → List Sentence → List Mark → Sentence
  | "Nullable", [type name arguments inner], marks =>
    type name arguments (inner ++ .question :: marks)
  | "ICollection", [element], marks => type "List" [element] marks
  | "HashSet", [element], marks => type "List" [element] marks
  | "IDictionary", [key, value], marks => type "Dictionary" [key, value] marks
  | name, arguments, marks => type name arguments marks

mutual

/-- The canonical form of a sentence. -/
def canonical : Sentence → Sentence
  | type name arguments marks => canonicalApply name (canonicalAll arguments) marks

/-- The canonical forms of several sentences. -/
def canonicalAll : List Sentence → List Sentence
  | [] => []
  | first :: others => canonical first :: canonicalAll others

end

/-- Built-in sentences that are their own canonical form. -/
inductive IsCanonical (parameters : List String) : Sentence → Prop
  | plain {name : String} (marks : List Mark) :
      IsPlainName parameters name → IsCanonical parameters (type name [] marks)
  | unary {name : String} {element : Sentence} (marks : List Mark) :
      name ∈ ["List", "ValidPropertiesBox"] → IsCanonical parameters element →
        IsCanonical parameters (type name [element] marks)
  | binary {key value : Sentence} (marks : List Mark) :
      IsCanonical parameters key → IsCanonical parameters value →
        IsCanonical parameters (type "Dictionary" [key, value] marks)

variable {parameters : List String}

/-- Marks do not matter to the canonical form. -/
theorem IsCanonical.withMarks {name : String} {arguments : List Sentence} {marks : List Mark}
    (h : IsCanonical parameters (type name arguments marks)) (marks' : List Mark) :
    IsCanonical parameters (type name arguments marks') := by
  cases h with
  | plain _ hplain => exact .plain marks' hplain
  | unary _ hname helement => exact .unary marks' hname helement
  | binary _ hkey hvalue => exact .binary marks' hkey hvalue

/-- A plain name is its own canonical form, marks included. -/
theorem canonical_plain (name : String) (marks : List Mark) :
    (type name [] marks).canonical = type name [] marks := by
  unfold canonical canonicalAll canonicalApply
  split <;> simp_all

/-- The marks of a nullable type follow those of the type that it makes nullable. -/
theorem canonical_nullable (element : Sentence) (marks : List Mark) :
    ∃ name arguments inner, element.canonical = type name arguments inner ∧
      (type "Nullable" [element] marks).canonical
        = type name arguments (inner ++ .question :: marks) := by
  cases helement : element.canonical with
  | type name arguments inner =>
    exact ⟨name, arguments, inner, rfl, by
      simp [canonical, canonicalAll, canonicalApply, helement]⟩

/-- Marks are printed behind whatever the head is printed as. -/
theorem print_canonical (name : String) (arguments : List Sentence) (marks : List Mark) :
    (type name arguments marks).canonical.print
      = marks.foldl Mark.print (type name arguments []).canonical.print := by
  have hhead (arguments : List Sentence) : (canonicalApply name arguments marks).print
      = marks.foldl Mark.print (canonicalApply name arguments []).print := by
    fun_cases canonicalApply name arguments marks with
    -- Only here do marks join others: the marks behind `Nullable` follow those of its argument.
    | case1 marks inner arguments head =>
      simp [canonicalApply, print, Mark.print]
    | _ => simp_all [canonicalApply, print]
  rw [canonical, canonical]
  exact hhead _

/-- The canonical form of a built-in sentence is canonical. -/
theorem isCanonical_canonical {sentence : Sentence} (h : IsBuiltIn parameters sentence) :
    IsCanonical parameters sentence.canonical := by
  induction h with
  | @plain name marks hname =>
    rw [canonical_plain]
    exact .plain marks hname
  | @unary name element marks hname _ ih =>
    simp only [unaryHeads, List.mem_cons, List.not_mem_nil, or_false] at hname
    rcases hname with rfl | rfl | rfl | rfl | rfl
    -- The nullable form disappears: its marks go to what it is applied to.
    · obtain ⟨name, arguments, inner, helement, hcanonical⟩ := canonical_nullable element marks
      rw [hcanonical]
      exact (helement ▸ ih).withMarks _
    · exact .unary marks (by simp) ih
    · exact .unary marks (by simp) ih
    · exact .unary marks (by simp) ih
    · exact .unary marks (by simp) ih
  | binary marks hname _ _ ihkey ihvalue =>
    simp only [binaryHeads, List.mem_cons, List.not_mem_nil, or_false] at hname
    rcases hname with rfl | rfl
    · exact .binary marks ihkey ihvalue
    · exact .binary marks ihkey ihvalue

/-- A canonical sentence is built in. -/
theorem IsCanonical.isBuiltIn {sentence : Sentence} (h : IsCanonical parameters sentence) :
    IsBuiltIn parameters sentence := by
  induction h with
  | plain marks hname => exact .plain marks hname
  | unary marks hname _ ih =>
    refine .unary marks ?_ ih
    simp only [List.mem_cons, List.not_mem_nil, or_false] at hname
    rcases hname with rfl | rfl <;> simp [unaryHeads]
  | binary marks _ _ ihkey ihvalue => exact .binary marks (by simp [binaryHeads]) ihkey ihvalue

/-- The canonical form is reached in one step. -/
theorem IsCanonical.canonical_eq_self {sentence : Sentence} (h : IsCanonical parameters sentence) :
    sentence.canonical = sentence := by
  induction h with
  | plain marks _ => exact canonical_plain _ marks
  | unary marks hname _ ih =>
    simp only [List.mem_cons, List.not_mem_nil, or_false] at hname
    rcases hname with rfl | rfl <;> simp [canonical, canonicalAll, canonicalApply, ih]
  | binary marks _ _ ihkey ihvalue =>
    simp [canonical, canonicalAll, canonicalApply, ihkey, ihvalue]

/-- A plain name is a single segment. -/
theorem IsPlainName.isSegment {name : String} (h : IsPlainName parameters name) :
    IsSegment name.toList := by
  have hkeyword : ∀ name ∈ keywords.map (·.1), IsSegment name.toList := by decide +kernel
  rcases h with h | ⟨-, h⟩
  · exact hkeyword name h
  · exact h

/-- A built-in sentence has only names that the tokenizer takes. -/
theorem IsBuiltIn.hasNames {sentence : Sentence} (h : IsBuiltIn parameters sentence) :
    sentence.HasNames := by
  have hunary : ∀ name ∈ unaryHeads, IsSegment name.toList := by decide
  have hbinary : ∀ name ∈ binaryHeads, IsSegment name.toList := by decide
  induction h with
  | plain marks hname => exact ⟨hname.isSegment.isDottedName, trivial⟩
  | unary marks hname _ ih => exact ⟨(hunary _ hname).isDottedName, ih, trivial⟩
  | binary marks hname _ _ ihkey ihvalue =>
    exact ⟨(hbinary _ hname).isDottedName, ihkey, ihvalue, trivial⟩

end Sentence

/-! ### What built-in types are written as -/

/-- The type has a shape, for the default settings, and the C# type of the shape is the text. -/
def WrittenAs (type : TypeRef) (text : String) : Prop :=
  ∃ shape declaration, ({} : TypeGraph).classify {} type = .ok shape ∧
    shape.cSharp {} false = ⟨[], .ok declaration⟩ ∧ declaration.text = text

/-- A nullable type is written with the mark behind it. -/
theorem writtenAs_nullable {type : TypeRef} {text : String} (h : WrittenAs type text) :
    WrittenAs (.nullable type) (text ++ "?") := by
  obtain ⟨shape, declaration, hshape, hdeclaration, rfl⟩ := h
  refine ⟨.nullable shape, Shape.withSuffix "?" declaration, ?_, ?_, rfl⟩
  · rw [classify_nullable, hshape]
    rfl
  · rw [Shape.cSharp, hdeclaration]
    rfl

/-- An array is written with the brackets behind its element. -/
theorem writtenAs_array {type : TypeRef} {text : String} (h : WrittenAs type text) :
    WrittenAs (.array type) (text ++ "[]") := by
  obtain ⟨shape, declaration, hshape, hdeclaration, rfl⟩ := h
  refine ⟨.array shape, Shape.withSuffix "[]" declaration, ?_, ?_, rfl⟩
  · rw [classify_array, hshape]
    rfl
  · rw [Shape.cSharp, hdeclaration]
    rfl

/-- Marks are written behind the type, from left to right. -/
theorem writtenAs_marks (marks : List Mark) {type : TypeRef} {text : String}
    (h : WrittenAs type text) :
    WrittenAs (marks.foldl Mark.apply type) (marks.foldl Mark.print text) := by
  induction marks generalizing type text with
  | nil => exact h
  | cons mark marks ih =>
    cases mark with
    | question => exact ih (writtenAs_nullable h)
    | brackets => exact ih (writtenAs_array h)

/-- The text of a generic name applied to declarations, argument by argument. -/
theorem apply_text_singleton (name : String) (argument : Declaration) (own : List Import) :
    (Declaration.apply name [argument] own).text = name ++ ("<" ++ argument.text ++ ">") := by
  simp [Declaration.apply, String.append_assoc]

/-- Two arguments are written with a comma between them. -/
theorem apply_text_pair (name : String) (first second : Declaration) (own : List Import) :
    (Declaration.apply name [first, second] own).text
      = name ++ ("<" ++ first.text ++ (", " ++ second.text ++ ">")) := by
  simp [Declaration.apply, String.append_assoc]

/-- Every collection is written as a list. -/
theorem writtenAs_collection {name : String} (hname : name ∈ ["List", "ICollection", "HashSet"])
    {type : TypeRef} {text : String} (h : WrittenAs type text) :
    WrittenAs (.generic (Scope.collectionHead (name ++ "`1") [collectionInterface]) [type])
      ("List" ++ ("<" ++ text ++ ">")) := by
  obtain ⟨shape, declaration, hshape, hdeclaration, rfl⟩ := h
  refine ⟨.collection shape, .apply "List" [declaration] [⟨collectionsSpace, "List"⟩], ?_, ?_,
    apply_text_singleton ..⟩
  · rw [classify_collection _ _ _ hname, hshape]
    rfl
  · rw [Shape.cSharp, hdeclaration]
    rfl

/-- Every dictionary is written as a dictionary. -/
theorem writtenAs_dictionary {name : String} (hname : name ∈ binaryHeads) {key value : TypeRef}
    {keyText valueText : String} (hkey : WrittenAs key keyText)
    (hvalue : WrittenAs value valueText) :
    WrittenAs (.generic (Scope.collectionHead (name ++ "`2")) [key, value])
      ("Dictionary" ++ ("<" ++ keyText ++ (", " ++ valueText ++ ">"))) := by
  obtain ⟨keyShape, keyDeclaration, hkeyShape, hkeyDeclaration, rfl⟩ := hkey
  obtain ⟨valueShape, valueDeclaration, hvalueShape, hvalueDeclaration, rfl⟩ := hvalue
  refine ⟨.dictionary keyShape valueShape, .apply "Dictionary" [keyDeclaration, valueDeclaration]
    [⟨collectionsSpace, "Dictionary"⟩], ?_, ?_, apply_text_pair ..⟩
  · rw [classify_dictionary _ _ _ hname, hkeyShape, hvalueShape]
    rfl
  · rw [Shape.cSharp, hkeyDeclaration, hvalueDeclaration]
    rfl

/-- The box is written under its own name. -/
theorem writtenAs_box {type : TypeRef} {text : String} (h : WrittenAs type text) :
    WrittenAs (.generic (Scope.boxHead {}) [type])
      ("ValidPropertiesBox" ++ ("<" ++ text ++ ">")) := by
  obtain ⟨shape, declaration, hshape, hdeclaration, rfl⟩ := h
  refine ⟨.container "ValidPropertiesBox" [shape], .apply "ValidPropertiesBox" [declaration]
    [⟨"Rock.ViewModels.Utility", "ValidPropertiesBox"⟩], ?_, ?_, apply_text_singleton ..⟩
  · rw [classify_box, hshape]
    rfl
  · rw [Shape.cSharp, Shape.argumentCSharps, hdeclaration]
    rfl

/-- Each keyword is what the type it stands for is written as. -/
theorem writtenAs_keyword : ∀ keyword ∈ keywords, WrittenAs (.system keyword.2) keyword.1 := by
  simp only [keywords, List.forall_mem_cons, List.not_mem_nil, false_implies, implies_true,
    and_true]
  refine ⟨?_, ?_, ?_, ?_, ?_, ?_, ?_, ?_, ?_, ?_, ?_, ?_, ?_, ?_, ?_, ?_⟩ <;>
    exact ⟨_, _, rfl, rfl, rfl⟩

/-- Primitive types have a namespace, so no type parameter is taken for one. -/
theorem writtenAs_parameter {name : String} (h : IsSegment name.toList) :
    WrittenAs (.parameter name) name := by
  have hprimitive : ∀ primitive ∈ primitiveNames, ¬ IsSegment primitive.toList := by
    decide +kernel
  have hname : name ∉ primitiveNames := fun hmem => hprimitive name hmem h
  exact ⟨.parameter name, ⟨name, []⟩, classify_parameter _ _ _ hname, rfl, rfl⟩

/-! ### What built-in names stand for -/

/-- Type parameters come first, but they are written like the keywords that they hide. -/
theorem resolve_plain (parameters : List String) {name : String}
    (h : Sentence.IsPlainName parameters name) :
    ∃ type, Scope.resolve { parameters } name [] = .ok type ∧ WrittenAs type name := by
  have hsegment := h.isSegment
  by_cases hparameter : name ∈ parameters
  · refine ⟨.parameter name, ?_, writtenAs_parameter hsegment⟩
    simp [Scope.resolve, Scope.resolvePlain, hparameter]
  · have hkeyword : name ∈ keywords.map (·.1) := by
      rcases h with h | ⟨h, -⟩
      · exact h
      · exact absurd h hparameter
    -- The keywords are distinct, so looking one up finds its own system name.
    obtain ⟨keyword, hmem, rfl⟩ := List.mem_map.mp hkeyword
    have hlookup : ∀ keyword ∈ keywords, keywords.lookup keyword.1 = some keyword.2 := by
      decide +kernel
    refine ⟨.system keyword.2, ?_, writtenAs_keyword keyword hmem⟩
    simp [Scope.resolve, Scope.resolvePlain, hparameter, hlookup keyword hmem]

/-- What a generic name stands for is written under its canonical name. -/
theorem resolve_unary (parameters : List String) {name : String} (hname : name ∈ unaryHeads)
    (element : Sentence) {type : TypeRef} (h : WrittenAs type element.canonical.print) :
    ∃ result, Scope.resolve { parameters } name [type] = .ok result ∧
      WrittenAs result (Sentence.type name [element] []).canonical.print := by
  simp only [unaryHeads, List.mem_cons, List.not_mem_nil, or_false] at hname
  rcases hname with rfl | rfl | rfl | rfl | rfl
  · obtain ⟨name, arguments, inner, helement, hcanonical⟩ := Sentence.canonical_nullable element []
    refine ⟨.nullable type, rfl, ?_⟩
    have hprint : (Sentence.type "Nullable" [element] []).canonical.print
        = element.canonical.print ++ "?" := by
      rw [hcanonical, helement]
      simp [Sentence.print, Mark.print]
    rw [hprint]
    exact writtenAs_nullable h
  · exact ⟨_, rfl, writtenAs_collection (by decide) h⟩
  · exact ⟨_, rfl, writtenAs_collection (by decide) h⟩
  · exact ⟨_, rfl, writtenAs_collection (by decide) h⟩
  · refine ⟨.generic (Scope.boxHead {}) [type], ?_, writtenAs_box h⟩
    have hsegment : Name.lastSegment "ValidPropertiesBox" = "ValidPropertiesBox" := by decide
    have hbox : (Scope.boxNames {}).contains "ValidPropertiesBox" = true := by decide
    -- The box is known by its settings, after the names of collections and dictionaries.
    have hhead : Scope.genericHead? { parameters } "ValidPropertiesBox" 1
        = some (Scope.boxHead {}) := by
      unfold Scope.genericHead?
      simp only [hsegment]
      rw [if_neg (by decide), if_neg (by decide), if_pos (by rw [hbox]; rfl)]
    unfold Scope.resolve Scope.resolveGeneric
    simp only [hsegment, List.length_singleton, hhead]
    rfl

/-- A dictionary with arguments resolves to a type that is written canonically. -/
theorem resolve_binary (parameters : List String) {name : String} (hname : name ∈ binaryHeads)
    (key value : Sentence) {keyType valueType : TypeRef}
    (hkey : WrittenAs keyType key.canonical.print)
    (hvalue : WrittenAs valueType value.canonical.print) :
    ∃ result, Scope.resolve { parameters } name [keyType, valueType] = .ok result ∧
      WrittenAs result (Sentence.type name [key, value] []).canonical.print := by
  simp only [binaryHeads, List.mem_cons, List.not_mem_nil, or_false] at hname
  rcases hname with rfl | rfl
  · exact ⟨_, rfl, writtenAs_dictionary (by decide) hkey hvalue⟩
  · exact ⟨_, rfl, writtenAs_dictionary (by decide) hkey hvalue⟩

/-! ### Built-in sentences -/

/-- **From sentence to text.** All names of a built-in sentence resolve, and the type it denotes is
written in canonical form. -/
theorem writtenAs_canonical {parameters : List String} {sentence : Sentence}
    (h : sentence.IsBuiltIn parameters) :
    ∃ type, sentence.evaluate { parameters } = .ok type ∧
      WrittenAs type sentence.canonical.print := by
  -- The marks behind a name are applied to what the name stands for with its arguments.
  induction h with
  | @plain name marks hname =>
    obtain ⟨head, hhead, hwritten⟩ := resolve_plain parameters hname
    refine ⟨marks.foldl Mark.apply head,
      (Sentence.evaluate_eq_ok_iff ..).mpr ⟨[], rfl, head, hhead, rfl⟩, ?_⟩
    rw [Sentence.canonical_plain]
    simpa [Sentence.print, Sentence.printArguments] using writtenAs_marks marks hwritten
  | @unary name element marks hname _ ih =>
    obtain ⟨type, htype, hwritten⟩ := ih
    obtain ⟨head, hhead, hwritten⟩ := resolve_unary parameters hname element hwritten
    refine ⟨marks.foldl Mark.apply head,
      (Sentence.evaluate_eq_ok_iff ..).mpr ⟨[type], ?_, head, hhead, rfl⟩, ?_⟩
    · rw [Sentence.evaluateAll_cons_eq_ok_iff]
      exact ⟨type, htype, [], rfl, rfl⟩
    · rw [Sentence.print_canonical]
      exact writtenAs_marks marks hwritten
  | @binary name key value marks hname _ _ ihkey ihvalue =>
    obtain ⟨keyType, hkeyType, hkey⟩ := ihkey
    obtain ⟨valueType, hvalueType, hvalue⟩ := ihvalue
    obtain ⟨head, hhead, hwritten⟩ := resolve_binary parameters hname key value hkey hvalue
    refine ⟨marks.foldl Mark.apply head,
      (Sentence.evaluate_eq_ok_iff ..).mpr ⟨[keyType, valueType], ?_, head, hhead, rfl⟩, ?_⟩
    · rw [Sentence.evaluateAll_cons_eq_ok_iff]
      exact ⟨keyType, hkeyType, [valueType],
        (Sentence.evaluateAll_cons_eq_ok_iff ..).mpr ⟨valueType, hvalueType, [], rfl, rfl⟩, rfl⟩
    · rw [Sentence.print_canonical]
      exact writtenAs_marks marks hwritten

/-- The text is read, with the default settings and no declared types; what it denotes has a shape,
and the C# type of the shape is the result, whether or not a value is required. -/
def CSharpText (parameters : List String) (text result : String) : Prop :=
  ∃ type shape, Scope.parse { parameters } text = .ok type ∧
    ({} : TypeGraph).classify {} type = .ok shape ∧
    ∀ required, ∃ imports, shape.declare .csharp {} false required = ⟨[], .ok ⟨result, imports⟩⟩

/-- However a built-in sentence is spaced, it is written in canonical form. -/
theorem cSharpText_of_spaced {parameters : List String} {sentence : Sentence} {text : String}
    (hbuiltIn : sentence.IsBuiltIn parameters) (hspaced : Spaced sentence.kinds text.toList) :
    CSharpText parameters text sentence.canonical.print := by
  have hderives := Sentence.derives_of_spaced hbuiltIn.hasNames hspaced
  obtain ⟨type, hvalue, shape, declaration, hshape, hdeclaration, htext⟩ :=
    writtenAs_canonical hbuiltIn
  refine ⟨type, shape, (parse_eq_ok_iff ..).mpr ⟨sentence, hderives, hvalue⟩, hshape, ?_⟩
  intro required
  exact ⟨declaration.imports, by rw [← htext]; exact hdeclaration⟩

/-- **Canonical form.** A built-in sentence, however it is spaced, is written in canonical form,
and reading what was written and writing it again gives the same text. -/
theorem cSharpText_canonical {parameters : List String} {sentence : Sentence} {text : String}
    (hbuiltIn : sentence.IsBuiltIn parameters) (hspaced : Spaced sentence.kinds text.toList) :
    CSharpText parameters text sentence.canonical.print ∧
      CSharpText parameters sentence.canonical.print sentence.canonical.print := by
  refine ⟨cSharpText_of_spaced hbuiltIn hspaced, ?_⟩
  -- The canonical form is built-in as well, and what was written is one spacing of it.
  have hcanonical := Sentence.isCanonical_canonical hbuiltIn
  have hagain := cSharpText_of_spaced hcanonical.isBuiltIn (Sentence.spaced_print _)
  rwa [hcanonical.canonical_eq_self] at hagain

/-- A dictionary of nullable arrays of lists, under other names than the canonical ones. -/
def nestedDictionary : Sentence :=
  .type "IDictionary" [.type "string" [] [],
    .type "HashSet" [.type "Nullable" [.type "T" [] []] []] [.brackets, .question]] []

/-- A nested dictionary with blanks between its tokens is written canonically, and once more the
same. -/
theorem cSharpText_nestedDictionary :
    CSharpText ["T"] "\tIDictionary<string , HashSet<Nullable<T>>[] ?>"
        "Dictionary<string, List<T?>[]?>" ∧
      CSharpText ["T"] "Dictionary<string, List<T?>[]?>" "Dictionary<string, List<T?>[]?>" := by
  have hparameter : Sentence.IsPlainName ["T"] "T" := .inr ⟨by decide, by decide⟩
  have hbuiltIn : nestedDictionary.IsBuiltIn ["T"] :=
    .binary [] (by decide) (.plain [] (.inl (by decide)))
      (.unary _ (by decide) (.unary [] (by decide) (.plain [] hparameter)))
  -- The tokens of the sentence in their order, with the blanks of the text between them.
  have hspaced : Spaced nestedDictionary.kinds
      "\tIDictionary<string , HashSet<Nullable<T>>[] ?>".toList :=
    .blank (by decide) <| .token (.name "IDictionary") <| .token (.symbol '<') <|
      .token (.name "string") <| .blank (by decide) <| .token (.symbol ',') <| .blank (by decide) <|
      .token (.name "HashSet") <| .token (.symbol '<') <| .token (.name "Nullable") <|
      .token (.symbol '<') <| .token (.name "T") <| .token (.symbol '>') <| .token (.symbol '>') <|
      .token (.symbol '[') <| .token (.symbol ']') <| .blank (by decide) <| .token (.symbol '?') <|
      .token (.symbol '>') .nil
  exact cSharpText_canonical hbuiltIn hspaced

end TypeExport.Expression
