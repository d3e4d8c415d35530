import TypeExport.Proofs.Documentation.Shown

/-!
# Texts inside their comments

A comment in TypeScript ends at its first end mark, and one in C# at the end of its line, of which
there are more kinds than the line feed.  Comments take such characters over from their texts, so a
text without them stays inside its comment, and only such a text does.

* `ClosesOnce`, `isLineEnd`, `LinesBegin` — comments that their texts do not leave.
* `occurrences_typeScriptBlock`, `ShowsAs.occurrences_eq` — the end marks of a comment are its own
  and those of its text.
* `linesBegin_ended`, `begins_marked_iff` — the lines of a comment are its own and those that begin
  within a line of its text.
* `enclosed_iff` — which texts stay inside their comments.
-/

namespace TypeExport

open Text

/-! ### Ends of comments -/

/-- A comment has one end mark, which stands at its end. -/
structure ClosesOnce (comment : List Char) : Prop where
  once : occurrences ['*', '/'] comment = 1
  last : "*/\n".toList <:+ comment

/-- A comment that ends with its end mark closes once unless it holds another one. -/
theorem closesOnce_iff {comment text : List Char} (hlast : "*/\n".toList <:+ comment)
    (hcount : occurrences ['*', '/'] comment = occurrences ['*', '/'] text + 1) :
    ClosesOnce comment ↔ ¬ "*/".toList <:+: text := by
  rw [← show ['*', '/'] = "*/".toList from rfl, ← occurrences_eq_zero_iff (List.cons_ne_nil _ _)]
  exact ⟨fun h => Nat.succ.inj (hcount.symm.trans h.once),
    fun h => ⟨hcount.trans (congrArg (· + 1) h), hlast⟩⟩

/-- An indentation hides no end of a comment. -/
theorem occurrences_indented (indent : Nat) (text : List Char) :
    occurrences ['*', '/'] (indentation indent ++ text) = occurrences ['*', '/'] text := by
  refine occurrences_blanks_append (by decide) (fun c hc => ?_) text
  rw [List.eq_of_mem_replicate hc]
  rfl

/-- A line of a block has the end marks of its text. -/
theorem occurrences_marked (indent : Nat) (text : List Char) :
    occurrences ['*', '/'] (trimRight ((typeScriptFrame indent).mark ++ ' ' :: text))
      = occurrences ['*', '/'] text := by
  have hmark : occurrences ['*', '/'] (typeScriptFrame indent).mark = 0 := by
    rw [typeScriptFrame, occurrences_indented]
    decide
  rw [occurrences_trimRight (by decide) (by decide), occurrences_parted (by decide) (by decide),
    hmark, Nat.zero_add]

/-- A comment has the end marks of its lines, and one of its own. -/
theorem occurrences_typeScriptBlock (indent : Nat) (lines : List (List Char)) :
    occurrences ['*', '/'] (typeScriptBlock indent lines)
      = (lines.map (occurrences ['*', '/'])).sum + 1 := by
  by_cases hone : lines.length = 1
  · obtain ⟨line, rfl⟩ := List.length_eq_one_iff.mp hone
    have hopening : occurrences ['*', '/'] "/**".toList = 0 := by decide
    have hclosing : occurrences ['*', '/'] "*/\n".toList = 1 := by decide
    -- A blank parts the text from both marks, so that no end mark arises where they meet.
    have hblock : typeScriptBlock indent [line]
        = indentation indent ++ ("/**".toList ++ ' ' :: (line ++ ' ' :: "*/\n".toList)) := by
      simp [typeScriptBlock]
    rw [hblock, occurrences_indented, occurrences_parted (by decide) (by decide),
      occurrences_parted (by decide) (by decide), hopening, hclosing, Nat.zero_add]
    rfl
  · have hopening : occurrences ['*', '/'] (typeScriptFrame indent).opening = 0 := by
      rw [typeScriptFrame, occurrences_indented]
      decide
    have hclosing : occurrences ['*', '/'] (typeScriptFrame indent).closing = 1 := by
      rw [typeScriptFrame, occurrences_indented]
      decide
    rw [typeScriptBlock_eq hone, occurrences_ended (by decide) (by decide), BlockFrame.lines,
      List.cons_append, List.map_cons, List.sum_cons, List.map_append, List.sum_append,
      List.map_map, List.map_singleton, List.sum_singleton, hopening, hclosing, Nat.zero_add]
    congr 2
    exact List.map_congr_left fun text _ => occurrences_marked indent text

/-- Trimming removes no end of a comment. -/
theorem IsTrimmed.occurrences_eq {text inner : List Char} (h : IsTrimmed text inner) :
    occurrences ['*', '/'] text = occurrences ['*', '/'] inner := by
  obtain ⟨before, behind, rfl, hbefore, hbehind⟩ := h.around
  rw [occurrences_append_blanks (by decide) (by decide) hbehind,
    occurrences_blanks_append (by decide) hbefore]

/-- What a comment shows has the end marks of the text: they hold no line breaks and no blanks. -/
theorem ShowsAs.occurrences_eq {text body : List Char} (h : ShowsAs text body) :
    occurrences ['*', '/'] body = occurrences ['*', '/'] text := by
  obtain ⟨unified, inner, hunified, htrimmed, hbody⟩ := h
  rw [hbody.occurrences_eq (by decide) (by decide), ← htrimmed.occurrences_eq,
    hunified.occurrences_eq (by decide) (by decide)]

/-- A comment block ends with its closing mark. -/
theorem suffix_typeScriptBlock (indent : Nat) (lines : List (List Char)) :
    "*/\n".toList <:+ typeScriptBlock indent lines := by
  have hclosing : "*/\n".toList <:+ " */\n".toList := by decide
  unfold typeScriptBlock
  split <;> exact hclosing.trans (List.suffix_append _ _)

/-- A TypeScript comment closes once exactly if no end mark stands in the text. -/
theorem closesOnce_typeScriptComment_iff {text : String} {indent : Nat}
    (hcomment : typeScriptComment (some text) indent ≠ "") :
    ClosesOnce (typeScriptComment (some text) indent).toList ↔
      ¬ "*/".toList <:+: (Documentation.toTypeScript text).toList := by
  have hblank := Bool.eq_false_iff.mpr (mt typeScriptComment_eq_empty_iff.mpr hcomment)
  obtain ⟨body, hbody, hlines⟩ := toList_commentOf hblank (typeScriptBlock indent)
  rw [typeScriptComment_eq, hlines]
  refine closesOnce_iff (suffix_typeScriptBlock indent _) ?_
  rw [occurrences_typeScriptBlock, occurrences_splitOn (by decide) (by decide),
    hbody.occurrences_eq]

/-- The mark of a deprecation closes once exactly if no end mark stands in the reason. -/
theorem closesOnce_deprecationMark_iff {message? : Option String} {indent : Nat} :
    ClosesOnce (deprecationMark message? indent).toList ↔
      ¬ "*/".toList <:+: (message?.getD "").toList := by
  have hclosing : occurrences ['*', '/'] "*/\n".toList = 1 := by decide
  have hopening : occurrences ['*', '/'] "/** @deprecated".toList = 0 := by decide
  have hmark (reason : String) : occurrences ['*', '/']
      ((if reason = "" then "" else reason ++ " ").toList ++ "*/\n".toList)
        = occurrences ['*', '/'] reason.toList + 1 := by
    split
    · next hempty =>
      subst hempty
      decide
    · rw [String.toList_append, List.append_assoc,
        show " ".toList ++ "*/\n".toList = ' ' :: "*/\n".toList from rfl,
        occurrences_parted (by decide) (by decide), hclosing]
  -- The blank behind the head is its own, and the one in front of the end mark comes with the
  -- reason.
  have hlist : (deprecationMark message? indent).toList = indentation indent
      ++ ("/** @deprecated".toList ++ ' ' :: ((if message?.getD "" = "" then ""
        else message?.getD "" ++ " ").toList ++ "*/\n".toList)) := by
    simp [deprecationMark]
  refine closesOnce_iff ?_ ?_
  · rw [deprecationMark, String.toList_append]
    exact List.suffix_append _ _
  · rw [hlist, occurrences_indented, occurrences_parted (by decide) (by decide), hopening, hmark,
      Nat.zero_add]

/-! ### Lines -/

/-- What ends a line of C#.  That a carriage return and a line feed end one line together makes no
difference here, since no line of a comment ends in a blank. -/
def isLineEnd (c : Char) : Bool :=
  "\n\r\u0085\u2028\u2029".toList.contains c

/-- All lines of C# are ended and begin in the same way. -/
structure LinesBegin (beginning text : List Char) : Prop where
  ended : (text.splitOnP isLineEnd).getLast? = some []
  begin : ∀ line ∈ (text.splitOnP isLineEnd).dropLast, beginning <+: line

/-- Lines of C# that begin within a line do so in the same way. -/
def Continues (beginning line : List Char) : Prop :=
  ∀ piece ∈ (line.splitOnP isLineEnd).tail, beginning <+: piece

/-- Characters before the first end of a line belong to the first line. -/
theorem splitOnP_append {front : List Char} (hfront : ∀ c ∈ front, isLineEnd c = false)
    (rest : List Char) : (front ++ rest).splitOnP isLineEnd
      = (rest.splitOnP isLineEnd).modifyHead (front ++ ·) := by
  induction front with
  | nil => exact (congrFun List.modifyHead_id _).symm
  | cons c front ih =>
    rw [List.forall_mem_cons] at hfront
    rw [List.cons_append, List.splitOnP_cons_eq_if_modifyHead, hfront.1, ih hfront.2,
      if_neg Bool.false_ne_true, List.modifyHead_modifyHead]
    rfl

/-- Lines that are ended by line feeds begin in the same way if their pieces do. -/
theorem linesBegin_ended {beginning : List Char} {lines : List (List Char)} :
    LinesBegin beginning (lines.flatMap (· ++ ['\n'])) ↔
      ∀ line ∈ lines, ∀ piece ∈ line.splitOnP isLineEnd, beginning <+: piece := by
  -- The last piece is what stands behind the last line feed: nothing.
  have hpieces : (lines.flatMap (· ++ ['\n'])).splitOnP isLineEnd
      = lines.flatMap (·.splitOnP isLineEnd) ++ [[]] := by
    induction lines with
    | nil => rfl
    | cons line lines ih =>
      rw [List.flatMap_cons, List.append_assoc, List.singleton_append,
        List.splitOnP_append_cons _ _ (by decide), ih, List.flatMap_cons, List.append_assoc]
  constructor
  · rintro ⟨-, hbegin⟩ line hline piece hpiece
    rw [hpieces, List.dropLast_concat] at hbegin
    exact hbegin piece (List.mem_flatMap.mpr ⟨line, hline, hpiece⟩)
  · intro hbegin
    refine ⟨by rw [hpieces, List.getLast?_concat], fun piece hpiece => ?_⟩
    rw [hpieces, List.dropLast_concat] at hpiece
    obtain ⟨line, hline, hpiece⟩ := List.mem_flatMap.mp hpiece
    exact hbegin line hline piece hpiece

/-- A text behind its beginning consists of lines that begin so if those behind the first do. -/
theorem begins_append_iff {beginning : List Char} (hplain : ∀ c ∈ beginning, isLineEnd c = false)
    (text : List Char) :
    (∀ piece ∈ (beginning ++ text).splitOnP isLineEnd, beginning <+: piece) ↔
      Continues beginning text := by
  rw [splitOnP_append hplain, Continues]
  cases hpieces : text.splitOnP isLineEnd with
  | nil => exact absurd hpieces (List.splitOnP_ne_nil _ _)
  | cons first others => simp

/-- A line continues with a further character in front, too. -/
theorem continues_cons {beginning line : List Char} {c : Char} (hc : isLineEnd c = false) :
    Continues beginning (c :: line) ↔ Continues beginning line := by
  rw [Continues, Continues, List.splitOnP_cons_eq_if_modifyHead, hc]
  simp

/-- The lines of a marked line begin with the mark if those within its text do. -/
theorem begins_marked_iff {frame : BlockFrame} (hframe : frame.IsPlain)
    (hplain : ∀ c ∈ frame.mark, isLineEnd c = false) (text : List Char) :
    (∀ piece ∈ (trimRight (frame.mark ++ ' ' :: text)).splitOnP isLineEnd, frame.mark <+: piece) ↔
      Continues frame.mark (trimRight text) := by
  rw [hframe.trimRight_marked]
  split
  -- The mark of a blank line has lost its space, but its only piece is the mark itself.
  · next hblank =>
    have hmark := begins_append_iff hplain []
    rw [List.append_nil] at hmark
    rw [hmark, trimRight_eq_nil_iff.mpr hblank]
  · rw [begins_append_iff hplain, continues_cons (by decide)]

/-- The lines of a frame begin with its mark if those within its texts do. -/
theorem BlockFrame.linesBegin_iff {frame : BlockFrame} (hframe : frame.IsPlain)
    (hplain : ∀ c ∈ frame.mark, isLineEnd c = false)
    (hends : ∀ line ∈ [frame.opening, frame.closing], ∃ rest, line = frame.mark ++ rest ∧
      ∀ c ∈ rest, isLineEnd c = false) (texts : List (List Char)) :
    LinesBegin frame.mark ((frame.lines texts).flatMap (· ++ ['\n'])) ↔
      ∀ text ∈ texts, Continues frame.mark (trimRight text) := by
  -- The two lines of the frame are no obstacle, since they hold no line end.
  have hbegins : ∀ line ∈ [frame.opening, frame.closing],
      ∀ piece ∈ line.splitOnP isLineEnd, frame.mark <+: piece := by
    intro line hline
    obtain ⟨rest, rfl, hrest⟩ := hends line hline
    rw [begins_append_iff hplain, Continues, List.splitOnP_eq_singleton hrest]
    exact fun _ hpiece => absurd hpiece List.not_mem_nil
  simp only [List.forall_mem_cons] at hbegins
  rw [linesBegin_ended]
  simp only [lines, List.cons_append, List.forall_mem_cons, List.forall_mem_append,
    List.forall_mem_map, begins_marked_iff hframe hplain]
  constructor
  · exact fun h => h.2.1
  · exact fun h => ⟨hbegins.1, h, hbegins.2.1, fun _ hline => absurd hline List.not_mem_nil⟩

/-- The lines of a C# comment begin with its mark if those within the lines of its text do. -/
theorem linesBegin_cSharpBlock_iff (indent : Nat) (lines : List (List Char)) :
    LinesBegin (cSharpFrame indent).mark (cSharpBlock indent lines) ↔
      ∀ line ∈ lines.map trimRight, Continues (cSharpFrame indent).mark line := by
  -- The mark of a line is its indentation and the slashes.
  have hslashes : ∀ c ∈ "///".toList, isLineEnd c = false := by simp [isLineEnd]
  have hplain : ∀ c ∈ (cSharpFrame indent).mark, isLineEnd c = false := by
    intro c hc
    obtain hspace | hslash := List.mem_append.mp hc
    · rw [List.eq_of_mem_replicate hspace]
      decide
    · exact hslashes c hslash
  rw [cSharpBlock_eq, BlockFrame.linesBegin_iff (isPlain_cSharpFrame indent) hplain ?_,
    List.forall_mem_map]
  simp only [List.forall_mem_cons]
  exact ⟨⟨" <summary>".toList, by simp [cSharpFrame], by simp [isLineEnd]⟩,
    ⟨" </summary>".toList, by simp [cSharpFrame], by simp [isLineEnd]⟩, nofun⟩

/-! ### Enclosed texts -/

/-- **Enclosure.** A comment in TypeScript, or the mark of a deprecation, has the one end mark at
its end exactly if its text has none.  The lines of a comment in C# begin with its mark exactly if
they do so where they begin within a line of its text. -/
theorem enclosed_iff (text : String) (indent : Nat) :
    (typeScriptComment (some text) indent ≠ "" →
        (ClosesOnce (typeScriptComment (some text) indent).toList ↔
          ¬ "*/".toList <:+: (Documentation.toTypeScript text).toList)) ∧
      (∀ message? : Option String, ClosesOnce (deprecationMark message? indent).toList ↔
        ¬ "*/".toList <:+: (message?.getD "").toList) ∧
      (cSharpComment (some text) indent ≠ "" → ∃ body, ShowsAs text.toList body ∧
        (LinesBegin (indentation indent ++ "///".toList)
            (cSharpComment (some text) indent).toList ↔
          ∀ line ∈ shownLines body, Continues (indentation indent ++ "///".toList) line)) := by
  refine ⟨closesOnce_typeScriptComment_iff, fun _ => closesOnce_deprecationMark_iff,
    fun hcomment => ?_⟩
  have hblank := Bool.eq_false_iff.mpr (mt cSharpComment_eq_empty_iff.mpr hcomment)
  obtain ⟨body, hbody, hlines⟩ := toList_commentOf hblank (cSharpBlock indent)
  refine ⟨body, hbody, ?_⟩
  rw [cSharpComment_eq, hlines]
  exact linesBegin_cSharpBlock_iff indent _

/-- A text without an end mark, of which one is left when it is rewritten; it has a line end, too,
behind which the mark of a comment stands. -/
def hiddenEnd : String := "*<see cref=\"T:Shop\"></see>/\u0085/// next"

/-- Code between the two characters of a closing mark hides them from the text, not from the
comment. -/
theorem enclosed_iff_hiddenEnd :
    ¬ "*/".toList <:+: hiddenEnd.toList ∧ typeScriptComment (some hiddenEnd) 0 ≠ "" ∧
      ¬ ClosesOnce (typeScriptComment (some hiddenEnd) 0).toList ∧
      ClosesOnce (deprecationMark (some "*<c>/") 0).toList ∧
      cSharpComment (some hiddenEnd) 0 ≠ "" ∧
      ∃ body, ShowsAs hiddenEnd.toList body ∧
        ∀ line ∈ shownLines body, Continues "///".toList line := by
  obtain ⟨htypeScript, hmark, hcSharp⟩ := enclosed_iff hiddenEnd 0
  have hcomment : typeScriptComment (some hiddenEnd) 0 ≠ "" := by decide +kernel
  have hcomment' : cSharpComment (some hiddenEnd) 0 ≠ "" := by decide +kernel
  have hin : "*/".toList <:+: (Documentation.toTypeScript hiddenEnd).toList := by decide +kernel
  have hbegin : LinesBegin "///".toList (cSharpComment (some hiddenEnd) 0).toList :=
    ⟨by decide +kernel, by decide +kernel⟩
  obtain ⟨body, hbody, hlines⟩ := hcSharp hcomment'
  exact ⟨by decide +kernel, hcomment, fun h => (htypeScript hcomment).mp h hin,
    (hmark _).mpr (by decide +kernel), hcomment', body, hbody, hlines.mp hbegin⟩

/-- An end mark leaves a comment, and so does a carriage return on its own. -/
theorem text_leaves_comment :
    typeScriptComment (some "a */ b") 0 = "/** a */ b */\n" ∧
      ¬ ClosesOnce (typeScriptComment (some "a */ b") 0).toList ∧
      ¬ ClosesOnce (deprecationMark (some "a */ b") 0).toList ∧
      cSharpComment (some "a\rb") 0 = "/// <summary>\n/// a\rb\n/// </summary>\n" ∧
      ¬ LinesBegin "///".toList (cSharpComment (some "a\rb") 0).toList := by
  refine ⟨by decide +kernel, fun h => ?_, fun h => ?_, by decide +kernel, fun h => ?_⟩
  · exact absurd h.once (by decide +kernel)
  · exact absurd h.once (by decide +kernel)
  · exact absurd h.begin (by decide +kernel)

end TypeExport
