import TypeExport.Declaration.CSharp
import TypeExport.Proofs.Declaration.TypeTerm
import TypeExport.Proofs.Outcome

/-!
# What a TypeScript type means

The text of a TypeScript type is read back as the type that the shape stands for: no brackets or
bars bind otherwise than they should, and a value may be `null` exactly where the shape says so.

* `Shape.meaning` — the type that a shape stands for, part by part.
* `Shape.placedMeaning` — the same where the place may make the value optional.
* `TypeTerm.inside`, `Shape.inside` — the positions inside a type and inside a shape.
* `Shape.IsReadable` — all names are words other than `null`, and no container is empty.
* `Shape.payload`, `TypeTerm.optionally` — a meaning is a plain type, with the absent value as an
  alternative or without it (`Shape.meaning_eq_optionally`).
* `Shape.bareTypeScript_reads`, `Shape.typeScript_reads` — the text of a shape is read as its
  meaning.
* `Shape.typeScript_reads_back` — the text denotes the meaning and nothing else, and the null
  alternative stands once at every optional position and at no other.
-/

namespace TypeExport

/-! ### Meanings -/

namespace TypeTerm

/-- How often the absent value is among the alternatives. -/
def nullCount (term : TypeTerm) : Nat :=
  term.alternatives.countP isNull

/-- The type with the absent value among its alternatives. -/
def orNull (term : TypeTerm) : TypeTerm :=
  if term.nullCount = 0 then ofAlternatives (term.alternatives ++ [null]) else term

mutual

/-- The types at the positions inside a type: elements and arguments, but not alternatives, which
stand where their union stands. -/
def inside : TypeTerm → List TypeTerm
  | named _ arguments => positions arguments
  | array element => element :: inside element
  | union alternatives => insideAll alternatives

/-- The types at some positions and inside them. -/
def positions : List TypeTerm → List TypeTerm
  | [] => []
  | term :: rest => term :: (inside term ++ positions rest)

/-- The types at the positions inside several alternatives. -/
def insideAll : List TypeTerm → List TypeTerm
  | [] => []
  | term :: rest => inside term ++ insideAll rest

end

end TypeTerm

namespace Shape

mutual

/-- The type that a shape stands for. -/
def meaning (settings : Settings) : Shape → TypeTerm
  | primitive .boolean _ => .named "boolean" []
  | primitive .number _ => .named "number" []
  | primitive .identifier _ => .named "Guid" []
  | primitive .string _ | primitive .timestamp _ => .named "string" []
  | nullable inner => (meaning settings inner).orNull
  | array element | collection element => .array (meaning settings element)
  | dictionary key value => .named "Record" [meaning settings key, meaning settings value]
  | container name arguments => .named name (meanings settings arguments)
  | globalEnum name _ _ _ | domainEnum name _ _ _ _ | viewModel name _ _ _ => .named name []
  | entity _ _ _ => .named settings.referenceBag []
  | parameter name => .named name []
  | unsupported _ => .named Target.typescript.placeholder []

/-- The types that several shapes stand for. -/
def meanings (settings : Settings) : List Shape → List TypeTerm
  | [] => []
  | shape :: rest => meaning settings shape :: meanings settings rest

end

/-- The shape says itself that the value may be absent. -/
def isNullable : Shape → Bool
  | nullable _ => true
  | _ => false

/-- The type that a shape stands for at a place that may make the value optional. -/
def placedMeaning (settings : Settings) (required : Bool) (shape : Shape) : TypeTerm :=
  if !required && shape.optionalByPlace then (shape.meaning settings).orNull
  else shape.meaning settings

mutual

/-- The shapes at the positions inside a shape.  What a nullable shape makes nullable stands at the
position of the nullable shape. -/
def inside : Shape → List Shape
  | nullable inner => inside inner
  | array element | collection element => element :: inside element
  | dictionary key value => key :: (inside key ++ value :: inside value)
  | container _ arguments => positions arguments
  | primitive _ _ | globalEnum _ _ _ _ | domainEnum _ _ _ _ _ | entity _ _ _ | viewModel _ _ _ _
  | parameter _ | unsupported _ => []

/-- The shapes at some positions and inside them. -/
def positions : List Shape → List Shape
  | [] => []
  | shape :: rest => shape :: (inside shape ++ positions rest)

end

end Shape

/-! ### Readable shapes -/

/-- A word other than `null`; identifiers are words. -/
def IsTypeName (name : String) : Prop :=
  name ≠ "null" ∧ name.toList ≠ [] ∧ ∀ c ∈ name.toList, isWordChar c

instance (name : String) : Decidable (IsTypeName name) :=
  decidable_of_iff (name ≠ "null" ∧ name.toList ≠ [] ∧ name.toList.all isWordChar)
    (by rw [IsTypeName, List.all_eq_true])

/-- The names that the notation itself gives to types. -/
theorem isTypeName_builtIn :
    ∀ name ∈ ["boolean", "number", "string", "Guid", "Record", Target.typescript.placeholder],
      IsTypeName name := by
  decide

namespace Shape

mutual

/-- All names that are written are words other than `null`, and no container is empty. -/
def IsReadable (settings : Settings) : Shape → Prop
  | nullable inner => IsReadable settings inner
  | array element | collection element => IsReadable settings element
  | dictionary key value => IsReadable settings key ∧ IsReadable settings value
  | container name arguments =>
    IsTypeName name ∧ arguments ≠ [] ∧ AllReadable settings arguments
  | globalEnum name _ _ _ | domainEnum name _ _ _ _ | viewModel name _ _ _ => IsTypeName name
  | entity _ _ _ => IsTypeName settings.referenceBag
  | parameter name => IsTypeName name
  | primitive _ _ | unsupported _ => True

/-- Several shapes are readable. -/
def AllReadable (settings : Settings) : List Shape → Prop
  | [] => True
  | shape :: rest => IsReadable settings shape ∧ AllReadable settings rest

end

/-- What is left of a shape when all that makes it nullable is taken away. -/
def payload : Shape → Shape
  | nullable inner => payload inner
  | shape => shape

end Shape

/-! ### Where the absent value stands in a meaning -/

namespace TypeTerm

/-- A type that is neither a union nor the type of the absent value. -/
def IsPlain (term : TypeTerm) : Prop :=
  term.alternatives = [term] ∧ term.isNull = false

/-- A plain type, with the absent value as an alternative if it is optional. -/
def optionally (optional : Bool) (term : TypeTerm) : TypeTerm :=
  if optional then union [term, null] else term

/-- A named type is plain, unless it is null. -/
theorem isPlain_named (name : String) (arguments : List TypeTerm) (h : name ≠ "null") :
    (named name arguments).IsPlain :=
  ⟨rfl, by simp [isNull, h]⟩

/-- An array is plain. -/
theorem isPlain_array (element : TypeTerm) : (array element).IsPlain :=
  ⟨rfl, rfl⟩

/-- A plain type has the null that is added to it, and no other. -/
theorem IsPlain.nullCount_optionally {term : TypeTerm} (h : term.IsPlain) (optional : Bool) :
    (optionally optional term).nullCount = optional.toNat := by
  cases optional with
  | false => simp [optionally, nullCount, h.1, h.2]
  | true =>
    have hnull : null.isNull = true := rfl
    simp [optionally, nullCount, alternatives, h.2, hnull]

/-- The absent value becomes an alternative once, however often it is asked for. -/
theorem IsPlain.orNull_optionally {term : TypeTerm} (h : term.IsPlain) (optional : Bool) :
    (optionally optional term).orNull = optionally true term := by
  rw [orNull, h.nullCount_optionally]
  cases optional with
  | false => simp [optionally, h.1, ofAlternatives]
  | true => rfl

/-- A null beside a type is not inside it. -/
theorem inside_optionally (optional : Bool) (term : TypeTerm) :
    (optionally optional term).inside = term.inside := by
  cases optional with
  | false => rfl
  | true => simp [optionally, null, inside, insideAll, positions]

end TypeTerm

namespace Shape

/-- What a shape stands for apart from the absent value is plain. -/
theorem isPlain_payload (settings : Settings) (shape : Shape) (h : shape.IsReadable settings) :
    (shape.payload.meaning settings).IsPlain := by
  induction shape using payload.induct with
  | case1 inner ih =>
    rw [IsReadable] at h
    exact ih h
  -- Nothing is nullable any more, so each shape is a name, an array or a name with arguments.
  | case2 shape hshape =>
    cases shape with
    | nullable inner => exact absurd rfl (hshape inner)
    | primitive kind typeName => cases kind <;> exact TypeTerm.isPlain_named _ _ (by decide)
    | array element => exact TypeTerm.isPlain_array _
    | collection element => exact TypeTerm.isPlain_array _
    | dictionary key value => exact TypeTerm.isPlain_named _ _ (by decide)
    | unsupported displayName => exact TypeTerm.isPlain_named _ _ (by decide)
    | container name arguments =>
      rw [IsReadable] at h
      exact TypeTerm.isPlain_named _ _ h.1.1
    | globalEnum | domainEnum | viewModel | entity | parameter =>
      rw [IsReadable] at h
      exact TypeTerm.isPlain_named _ _ h.1

/-- **Where the absent value stands.** A meaning has it as an alternative, once, exactly if the
shape is nullable. -/
theorem meaning_eq_optionally (settings : Settings) (shape : Shape)
    (h : shape.IsReadable settings) :
    shape.meaning settings = .optionally shape.isNullable (shape.payload.meaning settings) := by
  induction shape using payload.induct with
  | case1 inner ih =>
    rw [IsReadable] at h
    -- The absent value of an inner nullable shape is already there, so this adds it at most once.
    rw [meaning, ih h, (isPlain_payload settings inner h).orNull_optionally]
    rfl
  | case2 shape hshape =>
    cases shape with
    | nullable inner => exact absurd rfl (hshape inner)
    | _ => rfl

/-- The place where a value stands may add the absent value as well, but not twice. -/
theorem placedMeaning_eq_optionally (settings : Settings) (required : Bool) (shape : Shape)
    (h : shape.IsReadable settings) :
    shape.placedMeaning settings required
      = .optionally (shape.isOptional required) (shape.payload.meaning settings) := by
  rw [placedMeaning, meaning_eq_optionally settings shape h,
    (isPlain_payload settings shape h).orNull_optionally]
  cases shape with
  | nullable inner => simp [isOptional, isNullable, optionalByPlace]
  | _ =>
    simp only [isOptional, isNullable]
    split
    · next hplace => rw [hplace]
    · next hplace => rw [Bool.not_eq_true] at hplace; rw [hplace]

end Shape

/-! ### The lexemes of what is written -/

/-- A type name is one word. -/
theorem lexemes_typeName {name : String} (h : IsTypeName name) : lexemes name = [.word name] := by
  rw [lexemes, lexemesFrom_word [] name.toList h.2.2, List.nil_append, wordLexeme, if_neg,
    String.ofList_toList]
  simpa using h.2.1

/-- What is written `or null` is followed by a bar and a word. -/
theorem lexemes_orNull (text : String) :
    lexemes (text ++ " | null") = lexemes text ++ .mark '|' :: [.word "null"] := by
  have hnull : lexemes " | null" = [.mark '|', .word "null"] := by decide
  rw [lexemes_append text " | null" (by decide), hnull]

/-- The brackets of an array follow its element. -/
theorem lexemes_brackets (text : String) :
    lexemes (text ++ "[]") = lexemes text ++ [.mark '[', .mark ']'] := by
  have hbrackets : lexemes "[]" = [.mark '[', .mark ']'] := by decide
  rw [lexemes_append text "[]" (by decide), hbrackets]

/-- An element in parentheses stands between them, before the brackets. -/
theorem lexemes_parentheses (text : String) :
    lexemes ("(" ++ text ++ ")[]")
      = .mark '(' :: (lexemes text ++ [.mark ')']) ++ [.mark '[', .mark ']'] := by
  have hopen : lexemes ("(" ++ text) = .mark '(' :: lexemes text :=
    lexemes_mark_append '(' text (by decide)
  have hclose : lexemes ")[]" = [.mark ')', .mark '[', .mark ']'] := by decide
  rw [lexemes_append ("(" ++ text) ")[]" (by decide), hopen, hclose]
  simp

/-- A comma separates what stands before it from what stands behind. -/
theorem lexemes_comma (text rest : String) :
    lexemes (text ++ ", " ++ rest) = lexemes text ++ .mark ',' :: lexemes rest := by
  have hrest : lexemes (", " ++ rest) = .mark ',' :: lexemes rest := by
    have hcomma : isWordChar ',' = false ∧ Text.isBlank ',' = false := by decide
    have hblank : isWordChar ' ' = false ∧ Text.isBlank ' ' = true := by decide
    have hlist : (", " ++ rest).toList = ',' :: ' ' :: rest.toList := by simp
    rw [lexemes, hlist, lexemesFrom_cons hcomma.1, lexemesFrom_cons hblank.1, hcomma.2, hblank.2]
    rfl
  have hstart : startsWord (", " ++ rest).toList = false := by
    rw [String.toList_append]
    rfl
  rw [String.append_assoc, lexemes_append text (", " ++ rest) hstart, hrest]

/-- The arguments of a type stand between brackets behind its name. -/
theorem lexemes_apply {name : String} (h : IsTypeName name) (arguments : String) :
    lexemes (name ++ "<" ++ arguments ++ ">")
      = .word name :: .mark '<' :: (lexemes arguments ++ [.mark '>']) := by
  have hopen : lexemes ("<" ++ arguments) = .mark '<' :: lexemes arguments :=
    lexemes_mark_append '<' arguments (by decide)
  have hclose : lexemes ">" = [.mark '>'] := by decide
  have hstart : startsWord ("<" ++ arguments).toList = false := by
    rw [String.toList_append]
    rfl
  rw [lexemes_append _ ">" (by decide), hclose, String.append_assoc,
    lexemes_append name ("<" ++ arguments) hstart, lexemes_typeName h, hopen]
  rfl

/-! ### Texts that are read as their meaning -/

/-- Types with commas between them are an argument list. -/
theorem Reads.list {before : String} {arguments : List TypeTerm}
    (h : Reads .arguments (lexemes before) arguments) {texts : List String} {terms : List TypeTerm}
    (hrest : List.Forall₂ ReadsAs texts terms) :
    Reads .arguments (lexemes (", ".intercalate (before :: texts))) (arguments ++ terms) := by
  induction hrest generalizing before arguments with
  | nil => rwa [String.intercalate_singleton, List.append_nil]
  | @cons text term texts terms hfirst _ ih =>
    obtain ⟨alternatives, hreads, rfl⟩ := hfirst
    -- The grammar puts the arguments together from the left, so the list behind the first comma is
    -- not a part of the derivation: it is the part before the second comma that grows.
    have hgrown : Reads .arguments (lexemes (before ++ ", " ++ text))
        (arguments ++ [.ofAlternatives alternatives]) := by
      rw [lexemes_comma]
      exact h.comma hreads
    have hall := ih hgrown
    rwa [String.append_assoc, String.intercalate_cons_append, String.intercalate_cons_append,
      ← String.append_assoc, ← String.intercalate_cons_cons, List.append_assoc,
      List.singleton_append] at hall

/-- A name with arguments in angle brackets is an operand. -/
theorem Reads.apply_list {name : String} (hname : IsTypeName name) {texts : List String}
    {terms : List TypeTerm} (hne : texts ≠ []) (h : List.Forall₂ ReadsAs texts terms) :
    Reads .operand (lexemes (name ++ "<" ++ ", ".intercalate texts ++ ">"))
      [.named name terms] := by
  cases h with
  | nil => exact absurd rfl hne
  | @cons text term texts terms hfirst hrest =>
    obtain ⟨alternatives, hreads, rfl⟩ := hfirst
    rw [lexemes_apply hname]
    exact .primary (.apply name (Reads.list (.argument hreads) hrest))

namespace Shape

/-- The mark of an optional value adds the absent value as an alternative. -/
theorem readsAs_markOptional (optional : Bool) {declaration : Declaration} {term : TypeTerm}
    (h : Reads .operand (lexemes declaration.text) [term]) (hterm : term.IsPlain) :
    ReadsAs (markOptional optional declaration).text (.optionally optional term) := by
  cases optional with
  | false => exact ⟨term.alternatives, .operand h, by rw [hterm.1]; rfl⟩
  | true =>
    refine ⟨term.alternatives ++ TypeTerm.null.alternatives, ?_, by rw [hterm.1]; rfl⟩
    show Reads .union (lexemes (declaration.text ++ " | null")) _
    rw [lexemes_orNull]
    exact .bar (.operand h) (.primary (.word "null"))

/-- The mark of an optional value is found by the search for alternatives. -/
theorem hasAlternatives_orNull (text : List Char) :
    hasAlternatives (text ++ " | null".toList) = true := by
  induction text with
  | nil => decide
  | cons c text ih => rw [List.cons_append, hasAlternatives, ih, Bool.or_true]

/-- **Parentheses.** The brackets of a list bind to the whole type of its elements. -/
theorem reads_listOf (optional : Bool) {declaration : Declaration} {term : TypeTerm}
    (h : Reads .operand (lexemes declaration.text) [term]) (hterm : term.IsPlain) :
    Reads .operand (lexemes (listOf (markOptional optional declaration)).text)
      [.array (.optionally optional term)] := by
  by_cases halternatives : hasAlternatives (markOptional optional declaration).text.toList
  · -- What is found may also be within brackets or arguments; parentheses do no harm then.
    obtain ⟨alternatives, hreads, hsame⟩ := readsAs_markOptional optional h hterm
    rw [listOf, if_pos halternatives, lexemes_parentheses, ← hsame]
    exact .array (.primary (.parentheses hreads))
  · cases optional with
    | false =>
      rw [listOf, if_neg halternatives, lexemes_brackets]
      exact .array h
    | true =>
      -- An optional element never goes without parentheses, for its own mark would be found.
      refine absurd ?_ halternatives
      show hasAlternatives (declaration.text ++ " | null").toList = true
      rw [String.toList_append]
      exact hasAlternatives_orNull declaration.text.toList

/-- A required property is optional only if its shape is nullable. -/
theorem isOptional_true (shape : Shape) : shape.isOptional true = shape.isNullable := by
  cases shape <;> rfl

/-- The type of a part, which counts as required. -/
theorem readsAs_part (settings : Settings) (shape : Shape) (h : shape.IsReadable settings)
    {declaration : Declaration}
    (hreads : Reads .operand (lexemes declaration.text) [shape.payload.meaning settings]) :
    ReadsAs (markOptional (shape.isOptional true) declaration).text (shape.meaning settings) := by
  rw [isOptional_true, meaning_eq_optionally settings shape h]
  exact readsAs_markOptional shape.isNullable hreads (isPlain_payload settings shape h)

/-- A list whose elements are a part. -/
theorem reads_listOf_part (settings : Settings) (shape : Shape) (h : shape.IsReadable settings)
    {declaration : Declaration}
    (hreads : Reads .operand (lexemes declaration.text) [shape.payload.meaning settings]) :
    Reads .operand (lexemes (listOf (markOptional (shape.isOptional true) declaration)).text)
      [.array (shape.meaning settings)] := by
  rw [isOptional_true, meaning_eq_optionally settings shape h]
  exact reads_listOf shape.isNullable hreads (isPlain_payload settings shape h)

/-- The text of a declaration that is one word. -/
theorem reads_word (name : String) (h : IsTypeName name) :
    Reads .operand (lexemes name) [.named name []] := by
  rw [lexemes_typeName h]
  exact .primary (.word name)

mutual

/-- **Reading.** Without the mark of an optional value, the text of a shape is an operand that
denotes what the shape stands for apart from the absent value. -/
theorem bareTypeScript_reads (settings : Settings) (shape : Shape)
    (h : shape.IsReadable settings) :
    (bareTypeScript settings true shape).Yields fun declaration =>
      Reads .operand (lexemes declaration.text) [shape.payload.meaning settings] := by
  cases shape with
  | primitive kind typeName =>
    cases kind with
    | identifier => exact Report.yields_pure (reads_word "Guid" (isTypeName_builtIn _ (by decide)))
    | _ => exact Report.yields_pure (reads_word _ (isTypeName_builtIn _ (by decide)))
  | nullable inner =>
    rw [IsReadable] at h
    exact bareTypeScript_reads settings inner h
  | array element | collection element =>
    rw [IsReadable] at h
    refine (bareTypeScript_reads settings element h).bind ?_
    intro declaration hreads
    exact Report.yields_pure (reads_listOf_part settings element h hreads)
  | dictionary key value =>
    rw [IsReadable] at h
    obtain ⟨hkey, hvalue⟩ := h
    refine (bareTypeScript_reads settings key hkey).bind ?_
    intro keyType hkeyReads
    refine (bareTypeScript_reads settings value hvalue).bind ?_
    intro valueType hvalueReads
    refine Report.yields_pure (Reads.apply_list (isTypeName_builtIn _ (by decide)) (by simp) ?_)
    exact .cons (readsAs_part settings key hkey hkeyReads)
      (.cons (readsAs_part settings value hvalue hvalueReads) .nil)
  | container name arguments =>
    rw [IsReadable] at h
    obtain ⟨hname, hne, harguments⟩ := h
    refine (argumentTypeScripts_readsAs settings arguments harguments).bind ?_
    intro declarations hreads
    refine Report.yields_pure (Reads.apply_list hname ?_ hreads)
    -- There are as many declarations as arguments, so the angle brackets are not empty.
    intro hnil
    rw [hnil] at hreads
    cases arguments with
    | nil => exact hne rfl
    | cons first rest => cases hreads
  | unsupported displayName => exact ⟨_, rfl, reads_word _ (isTypeName_builtIn _ (by decide))⟩
  | globalEnum | domainEnum | entity | viewModel | parameter =>
    rw [IsReadable] at h
    exact Report.yields_pure (reads_word _ h)

/-- The texts of the arguments are read as what the arguments mean. -/
theorem argumentTypeScripts_readsAs (settings : Settings) (shapes : List Shape)
    (h : AllReadable settings shapes) :
    (argumentTypeScripts settings true shapes).Yields fun declarations =>
      List.Forall₂ ReadsAs (declarations.map (·.text)) (meanings settings shapes) := by
  cases shapes with
  | nil => exact Report.yields_pure .nil
  | cons shape rest =>
    rw [AllReadable] at h
    obtain ⟨hshape, hrest⟩ := h
    refine (bareTypeScript_reads settings shape hshape).bind ?_
    intro first hfirst
    refine (argumentTypeScripts_readsAs settings rest hrest).bind ?_
    intro others hothers
    exact Report.yields_pure (.cons (readsAs_part settings shape hshape hfirst) hothers)

end

/-- The text of a shape is read as what the shape stands for at its place. -/
theorem typeScript_reads (settings : Settings) (required : Bool) (shape : Shape)
    (h : shape.IsReadable settings) :
    (typeScript settings true required shape).Yields fun declaration =>
      ReadsAs declaration.text (shape.placedMeaning settings required) := by
  refine (bareTypeScript_reads settings shape h).bind ?_
  intro declaration hreads
  refine Report.yields_pure ?_
  rw [placedMeaning_eq_optionally settings required shape h]
  exact readsAs_markOptional _ hreads (isPlain_payload settings shape h)

/-! ### The absent value at every position -/

/-- What a shape means has one null if the shape is nullable, and none else. -/
theorem nullCount_meaning (settings : Settings) (shape : Shape) (h : shape.IsReadable settings) :
    (shape.meaning settings).nullCount = shape.isNullable.toNat := by
  rw [meaning_eq_optionally settings shape h]
  exact (isPlain_payload settings shape h).nullCount_optionally shape.isNullable

/-- The absent value as an alternative opens no position. -/
theorem inside_placedMeaning (settings : Settings) (required : Bool) (shape : Shape)
    (h : shape.IsReadable settings) :
    (shape.placedMeaning settings required).inside = (shape.meaning settings).inside := by
  rw [placedMeaning_eq_optionally settings required shape h, meaning_eq_optionally settings shape h,
    TypeTerm.inside_optionally, TypeTerm.inside_optionally]

mutual

/-- The same holds for the parts inside. -/
theorem map_nullCount_inside (settings : Settings) (shape : Shape) (h : shape.IsReadable settings) :
    (shape.meaning settings).inside.map TypeTerm.nullCount
      = shape.inside.map (·.isNullable.toNat) := by
  cases shape with
  | primitive kind typeName => cases kind <;> rfl
  | nullable inner =>
    rw [IsReadable] at h
    -- The mark of the nullable shape opens no position, so only the positions of the inner shape
    -- are left, and those it has in common with its payload.
    have hinner := map_nullCount_inside settings inner h
    rw [meaning_eq_optionally settings inner h, TypeTerm.inside_optionally] at hinner
    rw [meaning_eq_optionally settings (nullable inner) (by rwa [IsReadable]),
      TypeTerm.inside_optionally]
    exact hinner
  | array element =>
    rw [IsReadable] at h
    rw [meaning, TypeTerm.inside, inside, List.map_cons, List.map_cons,
      nullCount_meaning settings element h, map_nullCount_inside settings element h]
  | collection element =>
    rw [IsReadable] at h
    rw [meaning, TypeTerm.inside, inside, List.map_cons, List.map_cons,
      nullCount_meaning settings element h, map_nullCount_inside settings element h]
  | dictionary key value =>
    rw [IsReadable] at h
    obtain ⟨hkey, hvalue⟩ := h
    simp only [meaning, TypeTerm.inside, TypeTerm.positions, inside, List.map_cons, List.map_append,
      List.append_nil, nullCount_meaning settings key hkey, nullCount_meaning settings value hvalue,
      map_nullCount_inside settings key hkey, map_nullCount_inside settings value hvalue]
  | container name arguments =>
    rw [IsReadable] at h
    rw [meaning, TypeTerm.inside, inside]
    exact map_nullCount_positions settings arguments h.2.2
  | unsupported | globalEnum | domainEnum | entity | viewModel | parameter => rfl

/-- The same holds at every position of several shapes. -/
theorem map_nullCount_positions (settings : Settings) (shapes : List Shape)
    (h : AllReadable settings shapes) :
    (TypeTerm.positions (meanings settings shapes)).map TypeTerm.nullCount
      = (positions shapes).map (·.isNullable.toNat) := by
  cases shapes with
  | nil => rfl
  | cons shape rest =>
    rw [AllReadable] at h
    obtain ⟨hshape, hrest⟩ := h
    simp only [meanings, TypeTerm.positions, positions, List.map_cons, List.map_append,
      nullCount_meaning settings shape hshape, map_nullCount_inside settings shape hshape,
      map_nullCount_positions settings rest hrest]

end

/-- **The text keeps the meaning.**  Lenient rendering succeeds, and its text is read as what the
shape stands for and as nothing else.  The absent value is an alternative at a position exactly if
the shape there is nullable, or if the position is the outermost one and the place makes the value
optional; and nowhere is it an alternative twice. -/
theorem typeScript_reads_back (settings : Settings) (required : Bool) (shape : Shape)
    (h : shape.IsReadable settings) :
    ∃ declaration, (shape.declare .typescript settings true required).outcome = .ok declaration ∧
      (∀ term, ReadsAs declaration.text term ↔ term = shape.placedMeaning settings required) ∧
      (shape.placedMeaning settings required :: (shape.placedMeaning settings required).inside).map
          TypeTerm.nullCount
        = (shape.isNullable || (!required && shape.optionalByPlace)).toNat
          :: shape.inside.map (·.isNullable.toNat) := by
  obtain ⟨declaration, houtcome, hreads⟩ := typeScript_reads settings required shape h
  refine ⟨declaration, houtcome, ?_, ?_⟩
  · intro term
    constructor
    · intro hterm
      exact hterm.unique hreads
    · rintro rfl
      exact hreads
  -- Optional are nullable shapes everywhere, and others by their place.
  · have hoptional : shape.isOptional required
        = (shape.isNullable || (!required && shape.optionalByPlace)) := by
      cases shape <;> rfl
    rw [List.map_cons, inside_placedMeaning settings required shape h,
      map_nullCount_inside settings shape h, placedMeaning_eq_optionally settings required shape h,
      (isPlain_payload settings shape h).nullCount_optionally, hoptional]

/-- A box of a list of numbers that may be absent in two ways, of a table, and of a type that no
rule covers. -/
def boxOfParts : Shape :=
  .container "ValidPropertiesBox"
    [.array (.nullable (.nullable (.primitive .number "Int32"))),
      .dictionary (.primitive .string "String") (.parameter "TBag"), .unsupported "Rock.Model.Page"]

/-- The box at a place where no value is required: the outermost position and the elements of the
list are the ones with the absent value. -/
theorem boxOfParts_reads_back :
    boxOfParts.IsReadable {} ∧
      (∀ term, ReadsAs "ValidPropertiesBox<(number | null)[], Record<string, TBag>, unknown> | null"
        term ↔ term = boxOfParts.placedMeaning {} false) ∧
      (boxOfParts.placedMeaning {} false :: (boxOfParts.placedMeaning {} false).inside).map
          TypeTerm.nullCount = [1, 0, 1, 0, 0, 0, 0] := by
  have hname : IsTypeName "ValidPropertiesBox" ∧ IsTypeName "TBag" := by decide
  have hreadable : boxOfParts.IsReadable {} :=
    ⟨hname.1, by simp, trivial, ⟨trivial, hname.2⟩, trivial, trivial⟩
  obtain ⟨declaration, houtcome, hreads, hcounts⟩ :=
    typeScript_reads_back {} false boxOfParts hreadable
  -- The text is that of any declaration that succeeds, since there is only one.
  have htext : declaration.text
      = "ValidPropertiesBox<(number | null)[], Record<string, TBag>, unknown> | null" := by
    have hmap := congrArg (Except.map Declaration.text) houtcome
    exact (Except.ok.inj hmap).symm
  rw [htext] at hreads
  exact ⟨hreadable, hreads, hcounts⟩

end Shape

end TypeExport
