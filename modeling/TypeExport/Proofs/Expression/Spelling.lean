import TypeExport.Proofs.Expression.Grammar

/-!
# Spellings of sentences

The same tokens can be written with any blanks between them.  This file shows that blanks do not
matter, and gives each sentence one printed form.

* `Spaced kinds text` — the text is the tokens in order with any blanks before, between and behind
  them.
* `Sentence.HasNames` — all names of a sentence are dotted names.
* `Sentence.derives_of_spaced` — any spacing of the tokens of a sentence is derived by it, because
  no two names are neighbours.
* `Sentence.print`, `Sentence.spaced_print` — the form with a comma and a space between arguments
  and no other blank.
-/

namespace TypeExport.Expression

/-! ### Blanks between tokens -/

/-- The characters of a token. -/
def TokenKind.spelling : TokenKind → List Char
  | name text => text.toList
  | symbol c => [c]

/-- The tokens in order, with any blanks before, between and behind them. -/
inductive Spaced : List TokenKind → List Char → Prop
  | nil : Spaced [] []
  | blank {c : Char} {kinds : List TokenKind} {text : List Char} :
      Text.isBlank c → Spaced kinds text → Spaced kinds (c :: text)
  | token {kinds : List TokenKind} {text : List Char} (kind : TokenKind) :
      Spaced kinds text → Spaced (kind :: kinds) (kind.spelling ++ text)

/-- Spaced tokens stay spaced one behind the other. -/
theorem Spaced.append {kinds kinds' : List TokenKind} {text text' : List Char}
    (h : Spaced kinds text) (h' : Spaced kinds' text') :
    Spaced (kinds ++ kinds') (text ++ text') := by
  induction h with
  | nil => exact h'
  | blank hblank _ ih => exact .blank hblank ih
  | token kind _ ih =>
    rw [List.cons_append, List.append_assoc]
    exact .token kind ih

/-- The tokens are well formed and a name is followed by a symbol, if by anything. -/
def NamesApart : List TokenKind → Prop
  | [] => True
  | .symbol c :: rest => c ∈ symbols ∧ NamesApart rest
  | .name name :: rest =>
    IsDottedName name.toList ∧ (∀ kind ∈ rest.head?, ∃ c, kind = .symbol c) ∧ NamesApart rest

/-- The characters of a dotted name. -/
theorem IsDottedName.continues_or_dot {word : List Char} (h : IsDottedName word) :
    ∀ c ∈ word, continuesName c ∨ c = '.' := by
  obtain ⟨first, others, hfirst, hothers, rfl⟩ := h
  have hsegment : ∀ segment, IsSegment segment → ∀ c ∈ segment, continuesName c := by
    rintro _ ⟨start, rest, rfl, hstart, hrest⟩ c hc
    rcases List.mem_cons.mp hc with rfl | hc
    · exact continuesName_of_startsName hstart
    · exact hrest c hc
  intro c hc
  rcases List.mem_append.mp hc with hc | hc
  · exact .inl (hsegment first hfirst c hc)
  · obtain ⟨segment, hmem, hc⟩ := List.mem_flatMap.mp hc
    rcases List.mem_cons.mp hc with rfl | hc
    · exact .inr rfl
    · exact .inl (hsegment segment (hothers segment hmem) c hc)

/-- A blank or a symbol ends a name, so what stands before it is the longest name. -/
theorem isLongestName_of_ended {word rest : List Char} (hword : IsDottedName word)
    (hrest : ∀ c ∈ rest.head?, Text.isBlank c ∨ c ∈ symbols) : IsLongestName word rest := by
  refine ⟨hword, ?_⟩
  intro longer hhead hlonger
  by_contra hlt
  have hword_longer : word <+: longer :=
    List.prefix_of_prefix_length_le (List.prefix_append word rest) hhead (by omega)
  obtain ⟨more, rfl⟩ := hword_longer
  rw [List.prefix_append_right_inj] at hhead
  cases more with
  | nil => simp at hlt
  | cons c more =>
    cases rest with
    | nil => simp at hhead
    | cons d rest =>
      obtain rfl : c = d := (List.cons_prefix_cons.mp hhead).1
      -- A longer name would go on with a character that ends names.
      obtain ⟨hblank, hsymbol⟩ :=
        not_blank_of_continues_or_dot (hlonger.continues_or_dot c (by simp))
      rcases hrest c rfl with h | h
      · rw [hblank] at h
        cases h
      · exact hsymbol h

/-- Where a symbol comes next, the text goes on with a blank or a symbol. -/
theorem Spaced.head {kinds : List TokenKind} {text : List Char} (h : Spaced kinds text)
    (hapart : NamesApart kinds) (hsymbol : ∀ kind ∈ kinds.head?, ∃ c, kind = .symbol c) :
    ∀ c ∈ text.head?, Text.isBlank c ∨ c ∈ symbols := by
  cases h with
  | nil => simp
  | blank hblank _ =>
    intro c hc
    obtain rfl : _ = c := Option.some.inj hc
    exact .inl hblank
  | token kind _ =>
    obtain ⟨d, rfl⟩ := hsymbol kind rfl
    intro c hc
    obtain rfl : d = c := Option.some.inj hc
    -- The token begins with its symbol, which is one of those that end a name.
    exact .inr hapart.1

/-- Blanks do not matter: however tokens are spaced, the text is divided into them again. -/
theorem Spaced.lexes {kinds : List TokenKind} {text : List Char} (h : Spaced kinds text)
    (hapart : NamesApart kinds) : Lexes text kinds := by
  induction h with
  | nil => exact .nil
  | blank hblank _ ih => exact .blank hblank (ih hapart)
  | token kind hrest ih =>
    cases kind with
    | symbol c => exact .symbol hapart.1 (ih hapart.2)
    | name name =>
      have hended := hrest.head hapart.2.2 hapart.2.1
      have hname := Lexes.name (isLongestName_of_ended hapart.1 hended) (ih hapart.2.2)
      rwa [String.ofList_toList] at hname

/-! ### Spacing a sentence -/

namespace Sentence

mutual

/-- All names of a sentence are dotted names. -/
def HasNames : Sentence → Prop
  | type name arguments _ => IsDottedName name.toList ∧ AllHaveNames arguments

/-- All names of several sentences are dotted names. -/
def AllHaveNames : List Sentence → Prop
  | [] => True
  | first :: others => HasNames first ∧ AllHaveNames others

end

/-- Marks keep names apart. -/
theorem namesApart_marks (marks : List Mark) {rest : List TokenKind} (hrest : NamesApart rest) :
    NamesApart (marks.flatMap Mark.kinds ++ rest) := by
  induction marks with
  | nil => exact hrest
  | cons mark marks ih => cases mark <;> simpa [Mark.kinds, NamesApart, symbols] using ih

/-- Marks start with a symbol, and so does what stands behind them. -/
theorem head_marks (marks : List Mark) {rest : List TokenKind}
    (hsymbol : ∀ kind ∈ rest.head?, ∃ c, kind = .symbol c) :
    ∀ kind ∈ (marks.flatMap Mark.kinds ++ rest).head?, ∃ c, kind = .symbol c := by
  cases marks with
  | nil => exact hsymbol
  | cons mark marks => cases mark <;> simp [Mark.kinds]

/-- Further arguments begin with a symbol. -/
theorem head_otherKinds (others : List Sentence) (rest : List TokenKind) :
    ∀ kind ∈ (otherKinds others ++ rest).head?, ∃ c, kind = .symbol c := by
  cases others <;> simp [otherKinds]

mutual

/-- No two names of a sentence are neighbours. -/
theorem namesApart_kinds (sentence : Sentence) (hnames : sentence.HasNames) {rest : List TokenKind}
    (hrest : NamesApart rest) (hsymbol : ∀ kind ∈ rest.head?, ∃ c, kind = .symbol c) :
    NamesApart (sentence.kinds ++ rest) := by
  obtain ⟨name, arguments, marks⟩ := sentence
  simp only [HasNames] at hnames
  simp only [kinds, List.cons_append, List.append_assoc, NamesApart]
  refine ⟨hnames.1, ?_⟩
  cases arguments with
  | nil => exact ⟨head_marks marks hsymbol, namesApart_marks marks hrest⟩
  | cons first others =>
    -- Behind the name stands the bracket, and behind each argument a comma or the closing bracket.
    simp only [AllHaveNames] at hnames
    simp only [argumentKinds, List.cons_append, List.append_assoc, NamesApart]
    refine ⟨by simp, by simp [symbols], ?_⟩
    exact namesApart_kinds first hnames.2.1
      (namesApart_otherKinds others hnames.2.2 (namesApart_marks marks hrest))
      (head_otherKinds others _)

/-- Further arguments keep names apart. -/
theorem namesApart_otherKinds (others : List Sentence) (hnames : AllHaveNames others)
    {rest : List TokenKind} (hrest : NamesApart rest) : NamesApart (otherKinds others ++ rest) := by
  cases others with
  | nil => exact ⟨by simp [symbols], hrest⟩
  | cons next others =>
    simp only [AllHaveNames] at hnames
    simp only [otherKinds, List.cons_append, List.append_assoc, NamesApart]
    refine ⟨by simp [symbols], ?_⟩
    exact namesApart_kinds next hnames.1 (namesApart_otherKinds others hnames.2 hrest)
      (head_otherKinds others _)

end

/-- **Blanks do not matter.** However the tokens of a sentence are spaced, the text is derived by
the sentence. -/
theorem derives_of_spaced {sentence : Sentence} {text : String} (hnames : sentence.HasNames)
    (hspaced : Spaced sentence.kinds text.toList) : Derives text sentence := by
  have hapart := @namesApart_kinds sentence hnames [] trivial (by simp)
  rw [List.append_nil] at hapart
  exact hspaced.lexes hapart

end Sentence

/-! ### The printed form -/

/-- Put a mark behind a text. -/
def Mark.print (text : String) : Mark → String
  | question => text ++ "?"
  | brackets => text ++ "[]"

namespace Sentence

mutual

/-- A sentence without blanks, but for the space behind a comma. -/
def print : Sentence → String
  | type name arguments marks => marks.foldl Mark.print (name ++ printArguments arguments)

/-- The arguments with their brackets. -/
def printArguments : List Sentence → String
  | [] => ""
  | first :: others => "<" ++ print first ++ printOthers others

/-- What stands behind an argument. -/
def printOthers : List Sentence → String
  | [] => ">"
  | next :: others => ", " ++ print next ++ printOthers others

end

/-- Marks are printed behind a type. -/
theorem spaced_marks (marks : List Mark) {kinds : List TokenKind} {text : String}
    (h : Spaced kinds text.toList) :
    Spaced (kinds ++ marks.flatMap Mark.kinds) (marks.foldl Mark.print text).toList := by
  -- Marks are written behind what is there, so the text grows along with the kinds.
  induction marks generalizing kinds text with
  | nil => simpa using h
  | cons mark marks ih =>
    have hmark : Spaced (kinds ++ mark.kinds) (mark.print text).toList := by
      cases mark with
      | question =>
        rw [Mark.print, String.toList_append]
        exact h.append (.token (.symbol '?') .nil)
      | brackets =>
        rw [Mark.print, String.toList_append]
        exact h.append (.token (.symbol '[') (.token (.symbol ']') .nil))
    rw [List.flatMap_cons, ← List.append_assoc]
    exact ih hmark

mutual

/-- The printed form is one of the spacings. -/
theorem spaced_print (sentence : Sentence) : Spaced sentence.kinds sentence.print.toList := by
  obtain ⟨name, arguments, marks⟩ := sentence
  rw [kinds, print, ← List.cons_append]
  refine spaced_marks marks ?_
  rw [String.toList_append]
  refine .token (.name name) ?_
  cases arguments with
  | nil => exact .nil
  | cons first others =>
    simp only [argumentKinds, printArguments, String.toList_append, List.append_assoc]
    exact .token (.symbol '<') ((spaced_print first).append (spaced_printOthers others))

/-- Further arguments are printed with commas before them. -/
theorem spaced_printOthers (others : List Sentence) :
    Spaced (otherKinds others) (printOthers others).toList := by
  cases others with
  | nil => exact .token (.symbol '>') .nil
  | cons next others =>
    simp only [otherKinds, printOthers, String.toList_append, List.append_assoc]
    exact .token (.symbol ',') (.blank (by decide)
      ((spaced_print next).append (spaced_printOthers others)))

end

end Sentence

end TypeExport.Expression
