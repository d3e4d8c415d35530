import TypeExport.Documentation.Markup
import TypeExport.Proofs.Name.Casing
import TypeExport.Proofs.Text.Lines
import TypeExport.Proofs.Text.Replacing
import TypeExport.Proofs.Text.Searching

/-!
# Segments of documentation

Documentation is plain text with code, references, and references around a text of their own.  Each
of these is rewritten on its own, whatever stands around it, although the text as a whole is passed
over several times.

* `PlainText`, `Reference`, `Inline`, `Segment` — what documentation consists of.
* `Marks`, `Segment.write` — documentation as text, with the marks of its source or of TypeScript.
* `referenceTarget?_head` — a reference is recognised by its beginning.
* `Inline.rewrites`, `Segment.rewrites` — a pass over a text rewrites segment by segment if it
  rewrites their marks.
* `linkTo_member`, `linkTo_of_no_member` — what stands for a reference.
* `rewritten_by_segments` — documentation is rewritten segment by segment.
-/

namespace TypeExport.Documentation

open Text

/-! ### Segments -/

/-- Text without the bracket that begins an element. -/
structure PlainText where
  chars : List Char
  bracket_notMem : '<' ∉ chars

/-- A reference, with the blanks behind the name of its element and in front of the end of its
first mark. -/
structure Reference where
  target : List Char
  gap : List Char := [' ']
  ending : List Char := []
  target_ne_nil : target ≠ []
  quote_notMem : '"' ∉ target
  bracket_notMem : '<' ∉ target
  gap_ne_nil : gap ≠ []
  gap_blank : ∀ c ∈ gap, isBlank c = true
  ending_blank : ∀ c ∈ ending, isBlank c = true

/-- Text, code, or a reference without a text of its own. -/
inductive Inline where
  | plain (text : PlainText)
  | code (text : PlainText)
  | reference (cref : Reference)

/-- A part of documentation; a reference may enclose a label. -/
inductive Segment where
  | inline (part : Inline)
  | labelled (cref : Reference) (label : List Inline)

/-- What stands around code and labels, and in place of references. -/
structure Marks where
  codeOpening : List Char
  codeClosing : List Char
  reference : Reference → List Char
  labelOpening : Reference → List Char
  labelClosing : List Char

/-- A part of a text with the given marks. -/
def Inline.write (marks : Marks) : Inline → List Char
  | plain text => text.chars
  | code text => marks.codeOpening ++ text.chars ++ marks.codeClosing
  | reference cref => marks.reference cref

/-- A segment with the given marks. -/
def Segment.write (marks : Marks) : Segment → List Char
  | inline part => part.write marks
  | labelled cref label =>
    marks.labelOpening cref ++ label.flatMap (·.write marks) ++ marks.labelClosing

/-- The beginning of a reference up to the end of its first mark. -/
def Reference.head (reference : Reference) : List Char :=
  "<see".toList ++ (reference.gap ++ ("cref=\"".toList ++ (reference.target
    ++ '"' :: reference.ending)))

namespace Marks

/-- The marks of documentation. -/
def source : Marks where
  codeOpening := "<c>".toList
  codeClosing := "</c>".toList
  reference := fun cref => cref.head ++ "/>".toList
  labelOpening := fun cref => cref.head ++ ['>']
  labelClosing := "</see>".toList

/-- The marks of TypeScript comments, which have none for labels. -/
def typeScript : Marks where
  codeOpening := ['\x60']
  codeClosing := ['\x60']
  reference := fun cref => linkTo cref.target
  labelOpening := fun _ => []
  labelClosing := []

end Marks

/-! ### References -/

/-- A blank opens no markup. -/
theorem blank_ne_bracket {c : Char} (h : isBlank c = true) : c ≠ '<' := by
  rintro rfl
  cases h

namespace Reference

variable (cref : Reference) (rest : List Char)

/-- The one bracket of a reference begins it. -/
theorem head_eq : ∃ tail, cref.head = '<' :: 's' :: tail ∧ '<' ∉ tail := by
  have hgap : '<' ∉ cref.gap := fun h => blank_ne_bracket (cref.gap_blank _ h) rfl
  have hending : '<' ∉ cref.ending := fun h => blank_ne_bracket (cref.ending_blank _ h) rfl
  have hname : '<' ∉ "cref=\"".toList := by decide
  refine ⟨'e' :: 'e' :: (cref.gap ++ ("cref=\"".toList ++ (cref.target ++ '"' :: cref.ending))),
    rfl, ?_⟩
  simp only [List.mem_cons, List.mem_append, hgap, hending, hname, cref.bracket_notMem, or_false]
  decide

/-- A reference is recognised by its beginning, up to the end of its first mark. -/
theorem referenceTarget?_head :
    referenceTarget? (cref.head ++ rest) = some (cref.target, trimLeft rest) := by
  have hgap (text : List Char) :
      trimLeft (cref.gap ++ ("cref=\"".toList ++ text)) = "cref=\"".toList ++ text :=
    List.dropWhile_append_of_pos cref.gap_blank
  -- The recogniser asks for a blank behind the name, which it sees from the length.
  have hlonger (text : List Char) : text.length ≠ (cref.gap ++ text).length := by
    have hpos := List.length_pos_iff.mpr cref.gap_ne_nil
    rw [List.length_append]
    omega
  have htarget (text : List Char) :
      (cref.target ++ '"' :: text).takeWhile (· ≠ '"') = cref.target :=
    takeWhile_ne_append_cons cref.quote_notMem text
  have hending : trimLeft (cref.ending ++ rest) = trimLeft rest :=
    List.dropWhile_append_of_pos cref.ending_blank
  have hbehind (text : List Char) : behind? ['"'] ('"' :: text) = some text :=
    behind?_append ['"'] text
  simp only [referenceTarget?, head, List.append_assoc, List.cons_append, behind?_append,
    Option.bind_eq_bind, Option.bind_some, hgap, if_neg (hlonger _), htarget, List.drop_left,
    hbehind, hending]
  rw [if_neg]
  simpa using cref.target_ne_nil

/-- A reference without a text of its own is found as a whole. -/
theorem selfClosingReference_head :
    selfClosingReference (cref.head ++ "/>".toList ++ rest)
      = some ⟨(cref.head ++ "/>".toList).length, linkTo cref.target⟩ := by
  have hend : trimLeft ("/>".toList ++ rest) = "/>".toList ++ rest := rfl
  rw [List.append_assoc, selfClosingReference, referenceTarget?_head, hend]
  simp only [Option.bind_eq_bind, Option.bind_some, behind?_append, List.length_append,
    Option.pure_def, Option.some.injEq, Found.mk.injEq, and_true]
  omega

/-- A reference around a label is none without a text of its own. -/
theorem selfClosingReference_label :
    selfClosingReference (cref.head ++ ['>'] ++ rest) = none := by
  have hend : trimLeft (['>'] ++ rest) = '>' :: rest := rfl
  -- The mark of a label ends without the slash.
  have hother : behind? "/>".toList ('>' :: rest) = none :=
    behind?_eq_none (not_prefix_of_ne (by decide) ['>'] rest)
  rw [List.append_assoc, selfClosingReference, referenceTarget?_head, hend]
  simp only [Option.bind_eq_bind, Option.bind_some, hother, Option.bind_none]

/-- A reference around a label is found as a whole. -/
theorem pairedReference_label {label : List Char} (hlabel : '<' ∉ label) :
    pairedReference (cref.head ++ ['>'] ++ label ++ "</see>".toList ++ rest)
      = some ⟨(cref.head ++ ['>'] ++ label ++ "</see>".toList).length, label⟩ := by
  have hend (text : List Char) : trimLeft (['>'] ++ text) = ['>'] ++ text := rfl
  have hkept : (label ++ ("</see>".toList ++ rest)).takeWhile (· ≠ '<') = label :=
    takeWhile_ne_append_cons hlabel ("/see>".toList ++ rest)
  simp only [List.append_assoc]
  rw [pairedReference, referenceTarget?_head, hend]
  simp only [Option.bind_eq_bind, Option.bind_some, behind?_append, hkept, List.drop_left,
    List.length_append, Option.pure_def, Option.some.injEq, Found.mk.injEq, and_true]
  omega

end Reference

/-! ### What is found where -/

section

variable {find : List Char → Option Found} {beginning : List Char}

/-- Whatever is found begins in the same way. -/
def Begins (beginning : List Char) (find : List Char → Option Found) : Prop :=
  ∀ text, ¬ beginning <+: text → find text = none

/-- A rewriting of the occurrences of a pattern begins with it. -/
theorem begins_occurrence (pattern replacement : List Char) :
    Begins pattern (occurrence? pattern replacement) :=
  fun _ h => occurrence?_eq_none h

/-- A text that does not begin a reference has no target. -/
theorem referenceTarget?_eq_none {text : List Char} (h : ¬ "<see".toList <+: text) :
    referenceTarget? text = none := by
  rw [referenceTarget?, behind?_eq_none h]
  rfl

/-- A rewriting of references that close themselves begins with the reference. -/
theorem begins_selfClosingReference : Begins "<see".toList selfClosingReference := by
  intro text h
  rw [selfClosingReference, referenceTarget?_eq_none h]
  rfl

/-- A rewriting of references around a label begins with the reference. -/
theorem begins_pairedReference : Begins "<see".toList pairedReference := by
  intro text h
  rw [pairedReference, referenceTarget?_eq_none h]
  rfl

/-- Text without brackets stays if what is found begins with one. -/
theorem rewrites_of_bracket_notMem {second : List Char} (hfind : Begins ('<' :: second) find)
    {text : List Char} (h : '<' ∉ text) : Rewrites find text text := by
  refine .refl fun c hc rest => hfind _ (not_prefix_of_ne ?_ second rest)
  rintro rfl
  exact h hc

/-- An element stays if nothing is found at its bracket. -/
theorem rewrites_element {second : List Char} (hfind : Begins ('<' :: second) find)
    {behind : List Char} (hnone : ∀ rest, find ('<' :: behind ++ rest) = none)
    (h : '<' ∉ behind) : Rewrites find ('<' :: behind) ('<' :: behind) :=
  .cons hnone (rewrites_of_bracket_notMem hfind h)

/-- An element that begins in another way is not found. -/
theorem Begins.eq_none_of_element (hfind : Begins beginning find) {element : List Char}
    (hlength : beginning.length ≤ element.length) (h : ¬ beginning <+: element)
    (rest : List Char) : find (element ++ rest) = none :=
  hfind _ fun hprefix =>
    h (List.prefix_of_prefix_length_le hprefix (List.prefix_append element rest) hlength)

end

/-! ### Passes -/

/-- A pass over a text changes marks into others and leaves plain text. -/
structure Marks.RewrittenBy (find : List Char → Option Found) (marks marks' : Marks) : Prop where
  plain : ∀ text : PlainText, Rewrites find text.chars text.chars
  codeOpening : Rewrites find marks.codeOpening marks'.codeOpening
  codeClosing : Rewrites find marks.codeClosing marks'.codeClosing
  reference : ∀ cref, Rewrites find (marks.reference cref) (marks'.reference cref)

/-- The pass leaves or changes the marks of labels, too. -/
structure Marks.LabelsRewrittenBy (find : List Char → Option Found) (marks marks' : Marks) :
    Prop extends marks.RewrittenBy find marks' where
  labelOpening : ∀ cref, Rewrites find (marks.labelOpening cref) (marks'.labelOpening cref)
  labelClosing : Rewrites find marks.labelClosing marks'.labelClosing

section

variable {find : List Char → Option Found} {marks marks' : Marks}

/-- Where the marks are rewritten, so is a part between them. -/
theorem Inline.rewrites (h : marks.RewrittenBy find marks') (part : Inline) :
    Rewrites find (part.write marks) (part.write marks') := by
  cases part with
  | plain text => exact h.plain text
  | code text => exact (h.codeOpening.append (h.plain text)).append h.codeClosing
  | reference cref => exact h.reference cref

/-- Where the marks around labels are rewritten, so is a segment. -/
theorem Segment.rewrites (h : marks.LabelsRewrittenBy find marks') (segment : Segment) :
    Rewrites find (segment.write marks) (segment.write marks') := by
  cases segment with
  | inline part => exact part.rewrites h.toRewrittenBy
  | labelled cref label =>
    have hlabel : Rewrites find (label.flatMap (·.write marks)) (label.flatMap (·.write marks')) :=
      .flatMap label fun part _ => part.rewrites h.toRewrittenBy
    exact ((h.labelOpening cref).append hlabel).append h.labelClosing

end

/-! ### Code and references -/

namespace Marks

/-- The marks of documentation, with the beginnings of code as in TypeScript. -/
def codeOpened : Marks :=
  { source with codeOpening := typeScript.codeOpening }

/-- The marks of documentation, with code as in TypeScript. -/
def codeMarked : Marks :=
  { codeOpened with codeClosing := typeScript.codeClosing }

/-- The marks of documentation, with code and references as in TypeScript. -/
def linked : Marks :=
  { codeMarked with reference := typeScript.reference }

section

variable {find : List Char → Option Found} {second : Char} {pattern ending : List Char}

/-- The first mark of a reference stays if nothing is found at its bracket. -/
theorem rewrites_head (hfind : Begins ('<' :: pattern) find) (cref : Reference)
    (hnone : ∀ rest, find (cref.head ++ ending ++ rest) = none) (hending : '<' ∉ ending) :
    Rewrites find (cref.head ++ ending) (cref.head ++ ending) := by
  obtain ⟨tail, hhead, htail⟩ := cref.head_eq
  rw [hhead] at hnone ⊢
  refine rewrites_element hfind hnone ?_
  simp [htail, hending]

/-- What begins in another way is not found at a reference. -/
theorem eq_none_of_head (hfind : Begins ('<' :: second :: pattern) find) (hsecond : second ≠ 's')
    (cref : Reference) (ending rest : List Char) :
    find (cref.head ++ ending ++ rest) = none := by
  obtain ⟨tail, hhead, -⟩ := cref.head_eq
  refine hfind _ fun hprefix => ?_
  rw [hhead, List.append_assoc, List.cons_append] at hprefix
  exact not_prefix_of_ne hsecond.symm pattern _ (List.cons_prefix_cons.mp hprefix).2

/-- A pass that finds no references only changes the marks of code. -/
theorem rewrittenBy_of_code {opening closing opening' closing' : List Char}
    (hfind : Begins ('<' :: second :: pattern) find) (hsecond : second ≠ 's')
    (hlabel : ∀ rest, find ("</see>".toList ++ rest) = none)
    (hopening : Rewrites find opening opening') (hclosing : Rewrites find closing closing') :
    { source with codeOpening := opening, codeClosing := closing }.LabelsRewrittenBy find
      { source with codeOpening := opening', codeClosing := closing' } := by
  have hhead (cref : Reference) {ending : List Char} (hending : '<' ∉ ending) :=
    rewrites_head hfind cref (eq_none_of_head hfind hsecond cref ending) hending
  exact {
    plain := fun text => rewrites_of_bracket_notMem hfind text.bracket_notMem
    codeOpening := hopening
    codeClosing := hclosing
    reference := fun cref => hhead cref (by decide)
    labelOpening := fun cref => hhead cref (by decide)
    labelClosing := rewrites_element hfind hlabel (by decide) }

end

/-- The first pass opens the code of the source. -/
theorem source_rewrittenBy :
    source.LabelsRewrittenBy (occurrence? "<c>".toList ['\x60']) codeOpened := by
  have hfind := begins_occurrence "<c>".toList ['\x60']
  have hclosing : Rewrites (occurrence? "<c>".toList ['\x60']) "</c>".toList "</c>".toList :=
    rewrites_element hfind (hfind.eq_none_of_element (by decide) (by decide)) (by decide)
  exact rewrittenBy_of_code hfind (by decide) (hfind.eq_none_of_element (by decide) (by decide))
    (rewrites_pattern (by decide)) hclosing

/-- The second pass closes the code that was opened. -/
theorem codeOpened_rewrittenBy :
    codeOpened.LabelsRewrittenBy (occurrence? "</c>".toList ['\x60']) codeMarked := by
  have hfind := begins_occurrence "</c>".toList ['\x60']
  exact rewrittenBy_of_code hfind (by decide) (hfind.eq_none_of_element (by decide) (by decide))
    (rewrites_of_bracket_notMem hfind (by decide)) (rewrites_pattern (by decide))

/-- The third pass links the references that close themselves. -/
theorem codeMarked_rewrittenBy : codeMarked.LabelsRewrittenBy selfClosingReference linked := by
  have hfind := begins_selfClosingReference
  have hcode : Rewrites selfClosingReference ['\x60'] ['\x60'] :=
    rewrites_of_bracket_notMem hfind (by decide)
  -- Only a reference that closes itself is replaced; the marks of labels begin like one and go on
  -- in another way.
  exact {
    plain := fun text => rewrites_of_bracket_notMem hfind text.bracket_notMem
    codeOpening := hcode
    codeClosing := hcode
    reference := fun cref => .of_some (List.append_ne_nil_of_right_ne_nil _ (by decide))
      cref.selfClosingReference_head
    labelOpening := fun cref => rewrites_head hfind cref cref.selfClosingReference_label (by decide)
    labelClosing := rewrites_element hfind (hfind.eq_none_of_element (by decide) (by decide))
      (by decide) }

end Marks

/-! ### What stands for a reference -/

/-- A link to the member of an owner.  The names of fields keep their case. -/
def memberLink (kind : Char) (owner member : List Char) : List Char :=
  "\x7b@link ".toList ++ owner ++ ['.']
    ++ (if kind = 'F' then member else Name.camelCaseChars member) ++ ['\x7d']

/-- A name of two segments or more is linked by its last two. -/
theorem linkTo_of_splitOn {kind : Char} {name owner member : List Char} {front : List (List Char)}
    (h : name.splitOn '.' = front ++ [owner, member]) :
    linkTo (kind :: ':' :: name) = memberLink kind owner member := by
  have hback : (name.splitOn '.').reverse = member :: owner :: front.reverse := by simp [h]
  rw [linkTo]
  simp only [hback]
  rfl

/-- **Links.** A reference to a documentation id links to the last of its segments, as a member of
the one before. -/
theorem linkTo_member {kind : Char} {owner member : List Char} {front : List (List Char)}
    (h : ∀ segment ∈ front ++ [owner, member], '.' ∉ segment) :
    linkTo (kind :: ':' :: ['.'].intercalate (front ++ [owner, member]))
      = memberLink kind owner member :=
  linkTo_of_splitOn (List.splitOn_intercalate '.' h (by simp))

/-- Without two segments behind a letter and a colon, the target stands for itself. -/
theorem linkTo_of_no_member {target : List Char}
    (h : ∀ kind name, target = kind :: ':' :: name → '.' ∉ name) : linkTo target = target := by
  unfold linkTo
  split
  · next kind name =>
    rw [List.splitOn_eq_singleton (h kind name rfl)]
    rfl
  · rfl

/-- What stands for a reference is the target or a link to one of its segments. -/
theorem linkTo_cases (target : List Char) :
    linkTo target = target ∨ ∃ kind name owner member, target = kind :: ':' :: name ∧
      owner ∈ name.splitOn '.' ∧ member ∈ name.splitOn '.' ∧
      linkTo target = memberLink kind owner member := by
  unfold linkTo
  -- A letter and a colon, and two segments behind them, are what makes a link.
  split
  · next kind name =>
    split
    · next member owner front hname =>
      have hsegment (segment : List Char) (h : segment ∈ member :: owner :: front) :
          segment ∈ name.splitOn '.' := List.mem_reverse.mp (hname ▸ h)
      exact .inr ⟨kind, name, owner, member, rfl, hsegment owner (by simp),
        hsegment member (by simp), rfl⟩
    · exact .inl rfl
  · exact .inl rfl

/-- The link to a member has no bracket if owner and member have none. -/
theorem bracket_notMem_memberLink {kind : Char} {owner member : List Char} (howner : '<' ∉ owner)
    (hmember : '<' ∉ member) : '<' ∉ memberLink kind owner member := by
  have hopening : '<' ∉ "\x7b@link ".toList := by decide
  -- Camel case brings in nothing but letters.
  have hcase : '<' ∉ Name.camelCaseChars member := by
    intro hin
    obtain hin | hletter := Name.mem_camelCaseChars hin
    · exact hmember hin
    · exact absurd hletter (by decide)
  have hname : '<' ∉ if kind = 'F' then member else Name.camelCaseChars member := by
    split
    · exact hmember
    · exact hcase
  unfold memberLink
  simp only [List.mem_append, hopening, howner, hname, or_false, false_or]
  decide

/-- No element begins in what stands for a reference. -/
theorem bracket_notMem_linkTo {target : List Char} (h : '<' ∉ target) : '<' ∉ linkTo target := by
  obtain htarget | ⟨kind, name, owner, member, rfl, howner, hmember, hlink⟩ := linkTo_cases target
  · rwa [htarget]
  · have hname : '<' ∉ name := fun hin => h (by simp [hin])
    rw [hlink]
    exact bracket_notMem_memberLink (fun hin => hname (mem_of_mem_splitOn howner hin))
      fun hin => hname (mem_of_mem_splitOn hmember hin)

/-! ### Labels -/

/-- A part between the marks of the last pass is written as it is at the end. -/
theorem Inline.write_linked (part : Inline) : part.write .linked = part.write .typeScript := by
  cases part <;> rfl

/-- A part has no bracket at the end. -/
theorem Inline.bracket_notMem_write (part : Inline) : '<' ∉ part.write .typeScript := by
  cases part with
  | plain text => exact text.bracket_notMem
  | code text => simp [write, Marks.typeScript, text.bracket_notMem]
  | reference cref => exact bracket_notMem_linkTo cref.bracket_notMem

/-- The last pass leaves all but the marks of labels, which it takes away. -/
theorem Segment.rewrites_linked (segment : Segment) :
    Rewrites pairedReference (segment.write .linked) (segment.write .typeScript) := by
  -- No bracket is left in a label, so it ends where it did in the documentation.
  cases segment with
  | inline part =>
    rw [write, write, part.write_linked]
    exact rewrites_of_bracket_notMem begins_pairedReference part.bracket_notMem_write
  | labelled cref label =>
    have hlabel : label.flatMap (·.write .linked) = label.flatMap (·.write .typeScript) :=
      List.flatMap_congr fun part _ => part.write_linked
    have hbracket : '<' ∉ label.flatMap (·.write .typeScript) := by
      intro hin
      obtain ⟨part, -, hin⟩ := List.mem_flatMap.mp hin
      exact part.bracket_notMem_write hin
    rw [write, write, hlabel]
    refine .of_some (List.append_ne_nil_of_right_ne_nil _ (by decide)) fun rest => ?_
    rw [show Marks.typeScript.labelOpening cref = [] from rfl,
      show Marks.typeScript.labelClosing = [] from rfl, List.nil_append, List.append_nil]
    exact cref.pairedReference_label rest hbracket

/-! ### Rewriting -/

/-- A text is rewritten segment by segment. -/
theorem toTypeScript_write (segments : List Segment) :
    toTypeScript (.ofList (segments.flatMap (·.write .source)))
      = .ofList (segments.flatMap (·.write .typeScript)) := by
  have hopened := Rewrites.flatMap segments fun segment _ =>
    segment.rewrites Marks.source_rewrittenBy
  have hmarked := Rewrites.flatMap segments fun segment _ =>
    segment.rewrites Marks.codeOpened_rewrittenBy
  have hlinked := Rewrites.flatMap segments fun segment _ =>
    segment.rewrites Marks.codeMarked_rewrittenBy
  have hlabels := Rewrites.flatMap segments fun segment _ => segment.rewrites_linked
  rw [toTypeScript, String.toList_ofList, markCode, replaceAll_eq, replaceAll_eq,
    hopened.substitute_eq, hmarked.substitute_eq, hlinked.substitute_eq, hlabels.substitute_eq]

/-- **Segments.** Documentation is rewritten segment by segment: plain text stays, code stands
between backticks, a reference becomes a link or its target, and a reference around a label becomes
the rewritten label.  A link leads to the last segment of a documentation id, in camel case unless
it is a field, as a member of the segment before. -/
theorem rewritten_by_segments (segments : List Segment) :
    toTypeScript (.ofList (segments.flatMap (·.write .source)))
        = .ofList (segments.flatMap (·.write .typeScript)) ∧
      (∀ kind front owner member, (∀ segment ∈ front ++ [owner, member], '.' ∉ segment) →
        linkTo (kind :: ':' :: ['.'].intercalate (front ++ [owner, member]))
          = memberLink kind owner member) ∧
      ∀ target, (∀ kind name, target = kind :: ':' :: name → '.' ∉ name) →
        linkTo target = target :=
  ⟨toTypeScript_write segments, fun _ _ _ _ => linkTo_member, fun _ => linkTo_of_no_member⟩

/-- A reference whose target begins with a letter and a colon or not, with one space in it. -/
def simpleReference (target : String) (hne : target.toList ≠ []) (hquote : '"' ∉ target.toList)
    (hbracket : '<' ∉ target.toList) : Reference where
  target := target.toList
  target_ne_nil := hne
  quote_notMem := hquote
  bracket_notMem := hbracket
  gap_ne_nil := by decide
  gap_blank := by simp [isBlank]
  ending_blank := by simp

/-- A text with every kind of segment. -/
def nicknameSegments : List Segment := [
  .inline (.plain ⟨"Not ".toList, by decide⟩),
  .inline (.code ⟨"null".toList, by decide⟩),
  .labelled (simpleReference "T:Rock.Model.Person" (by decide) (by decide) (by decide)) [
    .plain ⟨" for ".toList, by decide⟩,
    .reference (simpleReference "P:Rock.Model.Person.NickName" (by decide) (by decide) (by decide)),
    .code ⟨"x".toList, by decide⟩],
  .inline (.reference (simpleReference "Person" (by decide) (by decide) (by decide)))]

/-- A comment with code, two references and markup that stays is rewritten segment by segment. -/
theorem rewritten_by_segments_nickname :
    toTypeScript ("Not <c>null</c><see cref=\"T:Rock.Model.Person\"> for "
        ++ "<see cref=\"P:Rock.Model.Person.NickName\"/><c>x</c></see><see cref=\"Person\"/>")
      = "Not \x60null\x60 for \x7b@link Person.nickName\x7d\x60x\x60Person" ∧
    (∀ segment ∈ ["Rock".toList, "Model".toList] ++ ["Person".toList, "NickName".toList],
      '.' ∉ segment) ∧
    linkTo "P:Rock.Model.Person.NickName".toList = "\x7b@link Person.nickName\x7d".toList ∧
    (∀ kind name, "Person".toList = kind :: ':' :: name → '.' ∉ name) ∧
    linkTo "Person".toList = "Person".toList := by
  obtain ⟨hrewritten, hlink, hverbatim⟩ := rewritten_by_segments nicknameSegments
  have hsegments : ∀ segment ∈ ["Rock".toList, "Model".toList]
      ++ ["Person".toList, "NickName".toList], '.' ∉ segment := by decide
  have hplain : ∀ kind name, "Person".toList = kind :: ':' :: name → '.' ∉ name := nofun
  -- The text is the one that the segments are written as.
  have hmember : linkTo "P:Rock.Model.Person.NickName".toList
      = "\x7b@link Person.nickName\x7d".toList := by
    have hid : "P:Rock.Model.Person.NickName".toList = 'P' :: ':' :: ['.'].intercalate
        (["Rock".toList, "Model".toList] ++ ["Person".toList, "NickName".toList]) := by
      decide
    rw [hid, hlink 'P' _ _ _ hsegments]
    decide +kernel
  have hsource : String.ofList (nicknameSegments.flatMap (·.write .source))
      = "Not <c>null</c><see cref=\"T:Rock.Model.Person\"> for "
        ++ "<see cref=\"P:Rock.Model.Person.NickName\"/><c>x</c></see><see cref=\"Person\"/>" := by
    decide +kernel
  have htarget : String.ofList (nicknameSegments.flatMap (·.write .typeScript))
      = "Not \x60null\x60 for \x7b@link Person.nickName\x7d\x60x\x60Person" := by
    decide +kernel
  exact ⟨hsource ▸ hrewritten.trans htarget, hsegments, hmember, hplain, hverbatim _ hplain⟩

end TypeExport.Documentation
