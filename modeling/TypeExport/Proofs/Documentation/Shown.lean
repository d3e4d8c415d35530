import TypeExport.Documentation.Comment
import TypeExport.Proofs.Outcome
import TypeExport.Proofs.Text.Lines
import TypeExport.Proofs.Text.Replacing
import TypeExport.Proofs.Text.Searching

/-!
# What comments show

A comment shows the lines of its text: without the blanks around the text and at the ends of its
lines, and with at most two line breaks where there were three.  A reader takes the marks of a
comment away and gets these lines back.

* `IsTrimmed`, `ShowsAs` — the text that a comment shows.
* `commentLines?_eq_some`, `commentOf` — its lines are those of a comment.
* `BlockFrame`, `BlockFrame.read?` — what stands around and in front of the lines of a block, and
  the lines that are read between.
* `BlockFrame.read?_lines` — the lines of a block are read back.
* `readTypeScript?`, `readCSharp?` — the lines that a comment shows.
* `lines_read_back` — comments show the lines of their texts.
-/

namespace TypeExport

open Text

/-! ### The text of a comment -/

/-- What is left of a text without the blanks around it. -/
structure IsTrimmed (text inner : List Char) : Prop where
  around : ∃ before behind, text = before ++ inner ++ behind ∧
    (∀ c ∈ before, isBlank c = true) ∧ ∀ c ∈ behind, isBlank c = true
  begins : ∀ c ∈ inner.head?, isBlank c = false
  ends : ∀ c ∈ inner.getLast?, isBlank c = false

/-- The text that a comment shows: line breaks are line feeds, no blanks stand around it, and three
line feeds in a row have become two. -/
def ShowsAs (text body : List Char) : Prop :=
  ∃ unified inner, Replaced "\r\n".toList ['\n'] text unified ∧ IsTrimmed unified inner ∧
    Replaced "\n\n\n".toList ['\n', '\n'] inner body

/-- Trimming a text gives the text without the blanks around it. -/
theorem isTrimmed_trim (text : List Char) : IsTrimmed text (trim text) where
  around := exists_trim text
  begins := by
    intro c hc
    have hfirst := List.head?_dropWhile_not isBlank text
    obtain ⟨rest, hrest⟩ := List.rdropWhile_prefix isBlank (trimLeft text)
    have hhead : (trimLeft text).head? = some c := by
      rw [← hrest, List.head?_append, ← trimRight_eq, ← trim, Option.mem_def.mp hc, Option.some_or]
    rw [← trimLeft, hhead] at hfirst
    exact hfirst
  ends := fun _ hc => getLast?_trimRight hc

/-- A trimmed text has no blanks at its end. -/
theorem IsTrimmed.trimRight_eq {text inner : List Char} (h : IsTrimmed text inner) :
    trimRight inner = inner :=
  List.rdropWhile_eq_self_iff.mpr fun hne =>
    Bool.eq_false_iff.mp (h.ends _ (List.getLast?_eq_some_getLast hne))

/-- A text that is not blank is shown as the lines of its comment. -/
theorem commentLines?_eq_some {text : List Char} (h : isBlankText text = false) :
    ∃ body, ShowsAs text body ∧ commentLines? text = some (body.splitOn '\n') := by
  have hunified := replaced_replaceAll (show "\r\n".toList ≠ [] by decide) ['\n'] text
  have hbody := replaced_replaceAll (show "\n\n\n".toList ≠ [] by decide) ['\n', '\n']
    (trim (replaceAll "\r\n".toList ['\n'] text))
  refine ⟨_, ⟨_, _, hunified, isTrimmed_trim _, hbody⟩, ?_⟩
  rw [commentLines?, h]
  rfl

/-- A blank text has no lines. -/
theorem commentLines?_eq_none {text : List Char} (h : isBlankText text = true) :
    commentLines? text = none :=
  if_pos h

/-- A text that is shown on one line has no blanks at its end. -/
theorem ShowsAs.trimRight_eq {text body : List Char} (h : ShowsAs text body)
    (hline : '\n' ∉ body) : trimRight body = body := by
  obtain ⟨unified, inner, -, htrimmed, hbody⟩ := h
  rw [hbody.eq_of_notMem List.mem_cons_self hline]
  exact htrimmed.trimRight_eq

/-! ### Blocks -/

/-- The first line of a block, what stands in front of the others, and the last line. -/
structure BlockFrame where
  opening : List Char
  mark : List Char
  closing : List Char

namespace BlockFrame

/-- The lines of a block; a mark is followed by a space unless nothing stands behind it. -/
def lines (frame : BlockFrame) (texts : List (List Char)) : List (List Char) :=
  frame.opening :: texts.map (fun text => trimRight (frame.mark ++ ' ' :: text)) ++ [frame.closing]

/-- The text behind a mark and a space, or nothing behind a mark alone. -/
def unmark? (mark line : List Char) : Option (List Char) :=
  (behind? mark line).bind fun rest =>
    match rest with
    | [] => some []
    | ' ' :: text => some text
    | _ => none

/-- The texts behind the marks of a block. -/
def read? (frame : BlockFrame) : List (List Char) → Option (List (List Char))
  | [] => none
  | first :: others =>
    if first = frame.opening ∧ others.getLast? = some frame.closing then
      others.dropLast.mapM (unmark? frame.mark)
    else none

/-- What stands around and in front of the lines has no line feeds and no blanks at its end. -/
structure IsPlain (frame : BlockFrame) : Prop where
  opening : '\n' ∉ frame.opening ∧ trimRight frame.opening = frame.opening
  mark : '\n' ∉ frame.mark ∧ trimRight frame.mark = frame.mark
  closing : '\n' ∉ frame.closing ∧ trimRight frame.closing = frame.closing

variable {frame : BlockFrame} {texts : List (List Char)}

/-- A marked line is the mark alone, or ends as its text does. -/
theorem IsPlain.trimRight_marked (h : frame.IsPlain) (text : List Char) :
    trimRight (frame.mark ++ ' ' :: text)
      = if isBlankText text then frame.mark else frame.mark ++ ' ' :: trimRight text := by
  have hspace : trimRight (frame.mark ++ [' ']) = frame.mark := by
    rw [trimRight_append, if_pos (by decide), h.mark.2]
  rw [List.append_cons, trimRight_append, hspace, ← List.append_cons]

/-- The text of a marked line is read back without the blanks at its end. -/
theorem IsPlain.unmark?_marked (h : frame.IsPlain) (text : List Char) :
    unmark? frame.mark (trimRight (frame.mark ++ ' ' :: text)) = some (trimRight text) := by
  rw [h.trimRight_marked]
  split
  · next hblank =>
    have hnothing := behind?_append frame.mark []
    rw [List.append_nil] at hnothing
    rw [unmark?, hnothing, trimRight_eq_nil_iff.mpr hblank]
    rfl
  · rw [unmark?, behind?_append]
    rfl

/-- **Blocks** are read back, each line without the blanks at its end. -/
theorem read?_lines (h : frame.IsPlain) (texts : List (List Char)) :
    frame.read? (frame.lines texts) = some (texts.map trimRight) := by
  have hmarked : (texts.map fun text => trimRight (frame.mark ++ ' ' :: text)).mapM
      (unmark? frame.mark) = some (texts.map trimRight) := by
    induction texts with
    | nil => rfl
    | cons text texts ih =>
      rw [List.map_cons, List.mapM_cons, h.unmark?_marked, ih]
      rfl
  rw [lines, List.cons_append, read?, List.getLast?_concat, if_pos ⟨rfl, rfl⟩, List.dropLast_concat,
    hmarked]

/-- The lines of a block have no line feeds if its texts have none. -/
theorem lineFeed_notMem_lines (h : frame.IsPlain) (htexts : ∀ text ∈ texts, '\n' ∉ text) :
    ∀ line ∈ frame.lines texts, '\n' ∉ line := by
  simp only [lines, List.cons_append, List.forall_mem_cons, List.forall_mem_append,
    List.forall_mem_map]
  refine ⟨h.opening.1, fun text htext hin => ?_, h.closing.1, nofun⟩
  have hmarked := mem_of_mem_trimRight hin
  simp [h.mark.1, htexts text htext] at hmarked

/-- No line of a block ends in a blank. -/
theorem trimRight_line (h : frame.IsPlain) {line : List Char} (hline : line ∈ frame.lines texts) :
    trimRight line = line := by
  revert line
  simp only [lines, List.cons_append, List.forall_mem_cons, List.forall_mem_append,
    List.forall_mem_map]
  exact ⟨h.opening.2, fun text _ => trimRight_idem _, h.closing.2, nofun⟩

end BlockFrame

/-! ### Both languages -/

/-- How a TypeScript comment is laid out. -/
inductive CommentLayout where
  | oneLine
  | block
deriving DecidableEq

/-- The frame of a block in TypeScript. -/
def typeScriptFrame (indent : Nat) : BlockFrame where
  opening := indentation indent ++ "/**".toList
  mark := indentation indent ++ " *".toList
  closing := indentation indent ++ " */".toList

/-- The frame of a summary in C#. -/
def cSharpFrame (indent : Nat) : BlockFrame where
  opening := indentation indent ++ "/// <summary>".toList
  mark := indentation indent ++ "///".toList
  closing := indentation indent ++ "/// </summary>".toList

/-- The text of a comment on one line. -/
def enclosed? (opening closing line : List Char) : Option (List Char) := do
  let rest ← behind? opening line
  return (← behind? closing.reverse rest.reverse).reverse

/-- The lines that a TypeScript comment shows, and its layout. -/
def readTypeScript? (indent : Nat) (comment : String) :
    Option (CommentLayout × List (List Char)) :=
  match endedLines? comment.toList with
  | none => none
  | some [line] =>
    (enclosed? (indentation indent ++ "/** ".toList) " */".toList line).map fun text =>
      (.oneLine, [text])
  | some lines => ((typeScriptFrame indent).read? lines).map fun texts => (.block, texts)

/-- The lines that a C# comment shows. -/
def readCSharp? (indent : Nat) (comment : String) : Option (List (List Char)) :=
  (endedLines? comment.toList).bind (cSharpFrame indent).read?

/-- An indentation has no line feed. -/
theorem lineFeed_notMem_indentation (indent : Nat) : '\n' ∉ indentation indent :=
  fun h => absurd (List.eq_of_mem_replicate h) (by decide)

/-- Indented text has no line feed and no blank at its end if the text has none. -/
theorem isPlain_indented {text : List Char} (indent : Nat)
    (h : '\n' ∉ text ∧ isBlankText text = false ∧ trimRight text = text) :
    '\n' ∉ indentation indent ++ text ∧
      trimRight (indentation indent ++ text) = indentation indent ++ text := by
  obtain ⟨hfeed, hblank, htrimmed⟩ := h
  constructor
  · rw [List.mem_append, not_or]
    exact ⟨lineFeed_notMem_indentation indent, hfeed⟩
  · rw [trimRight_append, hblank, htrimmed]
    rfl

/-- The frame of TypeScript comments is plain. -/
theorem isPlain_typeScriptFrame (indent : Nat) : (typeScriptFrame indent).IsPlain where
  opening := isPlain_indented indent (by decide)
  mark := isPlain_indented indent (by decide)
  closing := isPlain_indented indent (by decide)

/-- The frame of C# comments is plain. -/
theorem isPlain_cSharpFrame (indent : Nat) : (cSharpFrame indent).IsPlain where
  opening := isPlain_indented indent (by decide)
  mark := isPlain_indented indent (by decide)
  closing := isPlain_indented indent (by decide)

variable {indent : Nat} {lines : List (List Char)}

/-- The comment of a single line is a single line. -/
theorem typeScriptBlock_singleton (indent : Nat) (line : List Char) :
    typeScriptBlock indent [line]
      = [indentation indent ++ "/** ".toList ++ line ++ " */".toList].flatMap (· ++ ['\n']) := by
  simp [typeScriptBlock]

/-- Other comments than those of one line are blocks. -/
theorem typeScriptBlock_eq (h : lines.length ≠ 1) :
    typeScriptBlock indent lines
      = ((typeScriptFrame indent).lines lines).flatMap (· ++ ['\n']) := by
  have hblock : typeScriptBlock indent lines = indentation indent ++ "/**\n".toList
      ++ markedLines (indentation indent ++ " * ".toList) lines
      ++ indentation indent ++ " */\n".toList := by
    match lines, h with
    | [], _ => rfl
    | [_], h => exact absurd rfl h
    | _ :: _ :: _, _ => rfl
  rw [hblock]
  simp [BlockFrame.lines, typeScriptFrame, markedLines, List.flatMap_map]

/-- A C# comment is made of the lines of its frame. -/
theorem cSharpBlock_eq (indent : Nat) (lines : List (List Char)) :
    cSharpBlock indent lines = ((cSharpFrame indent).lines lines).flatMap (· ++ ['\n']) := by
  simp [cSharpBlock, BlockFrame.lines, cSharpFrame, markedLines, List.flatMap_map]

/-- The lines of a block are read back from its text. -/
theorem endedLines?_frame {frame : BlockFrame} (hframe : frame.IsPlain)
    (h : ∀ line ∈ lines, '\n' ∉ line) :
    endedLines? ((frame.lines lines).flatMap (· ++ ['\n'])) = some (frame.lines lines) :=
  endedLines?_flatMap (BlockFrame.lineFeed_notMem_lines hframe h)

/-- What is written between two marks is read back. -/
theorem enclosed?_append (opening text closing : List Char) :
    enclosed? opening closing (opening ++ text ++ closing) = some text := by
  rw [List.append_assoc, enclosed?, behind?_append]
  simp [behind?_append]

/-! ### Comments -/

section

variable {text : String}

/-- The comment of a text, whose lines are laid out as a block. -/
def commentOf (block : List (List Char) → List Char) (text : List Char) : String :=
  (commentLines? text).elim "" fun lines => .ofList (block lines)

/-- A TypeScript comment shows the lines of the rewritten text in a block. -/
theorem typeScriptComment_eq (text : String) (indent : Nat) :
    typeScriptComment (some text) indent
      = commentOf (typeScriptBlock indent) (Documentation.toTypeScript text).toList := by
  cases hlines : commentLines? (Documentation.toTypeScript text).toList <;>
    simp only [typeScriptComment, commentOf, hlines, Option.elim_none, Option.elim_some]

/-- A C# comment shows the lines of the text in a block. -/
theorem cSharpComment_eq (text : String) (indent : Nat) :
    cSharpComment (some text) indent = commentOf (cSharpBlock indent) text.toList := by
  cases hlines : commentLines? text.toList <;>
    simp only [cSharpComment, commentOf, hlines, Option.elim_none, Option.elim_some]

/-- The comment of a text that is not blank consists of the lines it is shown as. -/
theorem toList_commentOf {text : List Char} (h : isBlankText text = false)
    (block : List (List Char) → List Char) :
    ∃ body, ShowsAs text body ∧ (commentOf block text).toList = block (body.splitOn '\n') := by
  obtain ⟨body, hbody, hlines⟩ := commentLines?_eq_some h
  refine ⟨body, hbody, ?_⟩
  simp only [commentOf, hlines, Option.elim_some, String.toList_ofList]

/-- There is no comment exactly if the text is blank, since no block is empty. -/
theorem commentOf_eq_empty_iff {block : List (List Char) → List Char}
    (hblock : ∀ lines, block lines ≠ []) {text : List Char} :
    commentOf block text = "" ↔ isBlankText text = true := by
  constructor
  · intro hempty
    by_contra hblank
    obtain ⟨body, -, hcomment⟩ := toList_commentOf (Bool.eq_false_iff.mpr hblank) block
    rw [hempty] at hcomment
    exact hblock _ hcomment.symm
  · intro hblank
    rw [commentOf, commentLines?_eq_none hblank, Option.elim_none]

/-- A TypeScript block is never empty. -/
theorem typeScriptBlock_ne_nil (indent : Nat) (lines : List (List Char)) :
    typeScriptBlock indent lines ≠ [] := by
  unfold typeScriptBlock
  split <;> exact List.append_ne_nil_of_right_ne_nil _ (by decide)

/-- A C# block is never empty. -/
theorem cSharpBlock_ne_nil (indent : Nat) (lines : List (List Char)) :
    cSharpBlock indent lines ≠ [] :=
  List.append_ne_nil_of_right_ne_nil _ (by decide)

/-- There is no TypeScript comment exactly if the rewritten text is blank. -/
theorem typeScriptComment_eq_empty_iff :
    typeScriptComment (some text) indent = "" ↔
      isBlankText (Documentation.toTypeScript text).toList = true := by
  rw [typeScriptComment_eq]
  exact commentOf_eq_empty_iff (typeScriptBlock_ne_nil indent)

/-- There is no C# comment exactly if the text is blank. -/
theorem cSharpComment_eq_empty_iff :
    cSharpComment (some text) indent = "" ↔ isBlankText text.toList = true := by
  rw [cSharpComment_eq]
  exact commentOf_eq_empty_iff (cSharpBlock_ne_nil indent)

end

/-- The lines of a text, each without the blanks at its end. -/
def shownLines (body : List Char) : List (List Char) :=
  (body.splitOn '\n').map trimRight

/-- A comment on one line is read back. -/
theorem readTypeScript?_oneLine {comment : String} {line : List Char} (hline : '\n' ∉ line)
    (hcomment : comment.toList = typeScriptBlock indent [line]) :
    readTypeScript? indent comment = some (.oneLine, [line]) := by
  have hwhole : '\n' ∉ indentation indent ++ "/** ".toList ++ line ++ " */".toList := by
    simp only [List.mem_append, lineFeed_notMem_indentation, hline, or_false, false_or]
    decide
  have hended := endedLines?_flatMap (List.forall_mem_singleton.mpr hwhole)
  simp only [readTypeScript?, hcomment, typeScriptBlock_singleton, hended, enclosed?_append,
    Option.map_some]

/-- A block is read back. -/
theorem readTypeScript?_block {comment : String} (hlines : ∀ line ∈ lines, '\n' ∉ line)
    (hmany : lines.length ≠ 1) (hcomment : comment.toList = typeScriptBlock indent lines) :
    endedLines? comment.toList = some ((typeScriptFrame indent).lines lines) ∧
      readTypeScript? indent comment = some (.block, lines.map trimRight) := by
  have hframe := isPlain_typeScriptFrame indent
  have hended := endedLines?_frame hframe hlines
  rw [← typeScriptBlock_eq hmany, ← hcomment] at hended
  refine ⟨hended, ?_⟩
  have hread := BlockFrame.read?_lines hframe lines
  -- A block has at least two lines, so it is not taken for a comment on one line.
  unfold readTypeScript?
  rw [hended]
  split
  · next hnone => cases hnone
  · next line hsome =>
    have hlength := congrArg List.length (Option.some.inj hsome)
    simp [BlockFrame.lines] at hlength
  · next all _ hsome =>
    obtain rfl := Option.some.inj hsome
    rw [hread, Option.map_some]

/-- A text in one piece is that piece. -/
theorem eq_of_length_splitOn {body : List Char} (h : (body.splitOn '\n').length = 1) :
    body.splitOn '\n' = [body] ∧ '\n' ∉ body := by
  obtain ⟨line, hline⟩ := List.length_eq_one_iff.mp h
  have hjoined : ['\n'].intercalate (body.splitOn '\n') = body := List.intercalate_splitOn '\n'
  rw [hline, List.intercalate_singleton] at hjoined
  subst hjoined
  exact ⟨hline, notMem_of_mem_splitOn (hline ▸ List.mem_singleton_self line)⟩

/-- A TypeScript comment shows the lines of its text, on one line or in a block. -/
theorem readTypeScript?_of_shows {text body : List Char} {comment : String}
    (hbody : ShowsAs text body)
    (hcomment : comment.toList = typeScriptBlock indent (body.splitOn '\n')) :
    ∃ layout, readTypeScript? indent comment = some (layout, shownLines body) ∧
      (layout = .oneLine ↔ (shownLines body).length = 1) ∧
      (layout = .block → ∃ lines, endedLines? comment.toList = some lines ∧
        ∀ line ∈ lines, ∀ c ∈ line.getLast?, isBlank c = false) := by
  -- The number of lines decides about the layout, for the writer as for the reader.
  by_cases hone : (body.splitOn '\n').length = 1
  · obtain ⟨hline, hfeed⟩ := eq_of_length_splitOn hone
    have hshown : shownLines body = [body] := by
      rw [shownLines, hline, List.map_singleton, hbody.trimRight_eq hfeed]
    rw [hline] at hcomment
    refine ⟨.oneLine, ?_, iff_of_true rfl (by rw [hshown]; rfl), nofun⟩
    rw [hshown, readTypeScript?_oneLine hfeed hcomment]
  · have hshown : (shownLines body).length ≠ 1 := by rwa [shownLines, List.length_map]
    obtain ⟨hended, hread⟩ :=
      readTypeScript?_block (fun _ => notMem_of_mem_splitOn) hone hcomment
    refine ⟨.block, hread, iff_of_false nofun hshown, fun _ => ⟨_, hended, ?_⟩⟩
    intro line hline c hc
    have htrimmed := BlockFrame.trimRight_line (isPlain_typeScriptFrame indent) hline
    rw [← htrimmed] at hc
    exact getLast?_trimRight hc

/-- The lines of a C# comment are read back, since none of its texts has a line feed. -/
theorem readCSharp?_of_shows {body : List Char} {comment : String}
    (hcomment : comment.toList = cSharpBlock indent (body.splitOn '\n')) :
    readCSharp? indent comment = some (shownLines body) := by
  have hframe := isPlain_cSharpFrame indent
  have hlines : ∀ line ∈ body.splitOn '\n', '\n' ∉ line := fun _ => notMem_of_mem_splitOn
  have hended := endedLines?_frame hframe hlines
  rw [← cSharpBlock_eq, ← hcomment] at hended
  rw [readCSharp?, hended]
  exact BlockFrame.read?_lines hframe _

/-- **Lines.** There is a comment unless the text is blank, and it shows the lines of the text,
each without the blanks at its end.  A TypeScript comment stands on one line exactly if its text
does; otherwise none of its lines ends in a blank. -/
theorem lines_read_back (text : String) (indent : Nat) :
    (typeScriptComment (some text) indent = "" ↔
        isBlankText (Documentation.toTypeScript text).toList = true) ∧
      (cSharpComment (some text) indent = "" ↔ isBlankText text.toList = true) ∧
      (isBlankText (Documentation.toTypeScript text).toList = false →
        ∃ body layout, ShowsAs (Documentation.toTypeScript text).toList body ∧
          readTypeScript? indent (typeScriptComment (some text) indent)
            = some (layout, shownLines body) ∧
          (layout = .oneLine ↔ (shownLines body).length = 1) ∧
          (layout = .block → ∃ lines,
            endedLines? (typeScriptComment (some text) indent).toList = some lines ∧
              ∀ line ∈ lines, ∀ c ∈ line.getLast?, isBlank c = false)) ∧
      (isBlankText text.toList = false →
        ∃ body, ShowsAs text.toList body ∧
          readCSharp? indent (cSharpComment (some text) indent) = some (shownLines body)) := by
  refine ⟨typeScriptComment_eq_empty_iff, cSharpComment_eq_empty_iff, fun hblank => ?_,
    fun hblank => ?_⟩
  · obtain ⟨body, hbody, hcomment⟩ := toList_commentOf hblank (typeScriptBlock indent)
    rw [← typeScriptComment_eq] at hcomment
    obtain ⟨layout, hread, hone, hlines⟩ := readTypeScript?_of_shows hbody hcomment
    exact ⟨body, layout, hbody, hread, hone, hlines⟩
  · obtain ⟨body, hbody, hcomment⟩ := toList_commentOf hblank (cSharpBlock indent)
    rw [← cSharpComment_eq] at hcomment
    exact ⟨body, hbody, readCSharp?_of_shows hcomment⟩

/-- Two paragraphs with blanks around their lines. -/
def paragraphs : String := "\r\n  The <c>id</c> \r\n\r\n\r\n\t  of a person.\u00a0\n"

/-- Two paragraphs with code and an indentation, in both languages. -/
theorem lines_read_back_paragraphs :
    isBlankText (Documentation.toTypeScript paragraphs).toList = false ∧
      isBlankText paragraphs.toList = false ∧
      (∃ body, ShowsAs (Documentation.toTypeScript paragraphs).toList body ∧
        shownLines body = ["The \x60id\x60".toList, [], "\t  of a person.".toList]) ∧
      (∃ lines, endedLines? (typeScriptComment (some paragraphs) 2).toList = some lines ∧
        ∀ line ∈ lines, ∀ c ∈ line.getLast?, isBlank c = false) ∧
      ∃ body, ShowsAs paragraphs.toList body ∧
        shownLines body = ["The <c>id</c>".toList, [], "\t  of a person.".toList] := by
  have hmarked : isBlankText (Documentation.toTypeScript paragraphs).toList = false := by
    decide +kernel
  have hblank : isBlankText paragraphs.toList = false := by decide +kernel
  obtain ⟨-, -, htypeScript, hcSharp⟩ := lines_read_back paragraphs 2
  obtain ⟨body, layout, hbody, hread, -, hlines⟩ := htypeScript hmarked
  obtain ⟨body', hbody', hread'⟩ := hcSharp hblank
  -- What is read is evaluated; that it is what the comment shows is the theorem.
  have hblock : readTypeScript? 2 (typeScriptComment (some paragraphs) 2)
      = some (.block, ["The \x60id\x60".toList, [], "\t  of a person.".toList]) := by
    decide +kernel
  have hsummary : readCSharp? 2 (cSharpComment (some paragraphs) 2)
      = some ["The <c>id</c>".toList, [], "\t  of a person.".toList] := by
    decide +kernel
  obtain ⟨hlayout, hshown⟩ := Prod.mk.inj (Option.some.inj (hread.symm.trans hblock))
  exact ⟨hmarked, hblank, ⟨body, hbody, hshown⟩, hlines hlayout,
    ⟨body', hbody', Option.some.inj (hread'.symm.trans hsummary)⟩⟩

end TypeExport
