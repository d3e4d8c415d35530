import TypeExport.Documentation.Summary
import TypeExport.Proofs.Documentation.Shown

/-!
# Dedented summaries

Between the tags of a summary, its lines stand on lines of their own, behind an indentation that is
not part of the text.  The width of the indentation is that of the line of the end tag.  Where
the end tag is indented, the text keeps what the lines begin with behind the indentation.  Where it
is not, no line keeps any blanks that it begins with.

* `IsContent` — the lines of a text without blanks around it.
* `IsLaidOut`, `HoldsText` — the lines between the tags of a summary.
* `escaped`, `escapedLines` — lines with what stands for their characters in XML.
* `keptLine` — what the text keeps of a line.
* `lines_inner` — the lines are read back, in their layout.
* `commonIndent_written`, `map_dedentLine`, `dropBlankEnds_parted` — the layout is taken away.
* `summary_lines_kept_iff` — when all of the lines is kept.
-/

namespace TypeExport.Documentation

open TypeExport.Text

/-! ### Lines and their layout -/

/-- The lines of a text without blanks around it and at the ends of its lines. -/
structure IsContent (content : List (List Char)) : Prop where
  unbroken : ∀ line ∈ content, '\n' ∉ line
  trimmed : ∀ line ∈ content, trimRight line = line
  begins : ∃ line ∈ content.head?, isBlankText line = false
  ends : ∃ line ∈ content.getLast?, isBlankText line = false

/-- A line is written behind an indentation, which may be missing if there is nothing behind it. -/
inductive IsIndented (width : Nat) : List Char → List Char → Prop where
  | line (line : List Char) : IsIndented width line (indentation width ++ line)
  | blank : IsIndented width [] []

/-- Indented lines between two tags that stand on lines of their own, the second one indented. -/
def IsLaidOut (width : Nat) (content : List (List Char)) (text : List Char) : Prop :=
  ∃ lineBreak written, (lineBreak = ['\n'] ∨ lineBreak = ['\r', '\n']) ∧
    List.Forall₂ (IsIndented width) content written ∧
    text = lineBreak.intercalate ([] :: written ++ [indentation width])

/-- An element without other elements in it.  Its text may have been read in several pieces. -/
def HoldsText (element : Xml.Element) (text : List Char) : Prop :=
  ∃ pieces : List String, element.content = pieces.map .text ∧ pieces.flatMap String.toList = text

/-- A line with what stands for its characters in XML. -/
def escaped (line : List Char) : List Char :=
  line.flatMap Xml.textChar

/-- Lines with what stands for their characters in XML, joined by line breaks. -/
def escapedLines (content : List (List Char)) : List Char :=
  ['\n'].intercalate (content.map escaped)

/-- What the text keeps of a line: nothing that it begins with, unless there is an indentation. -/
def keptLine (width : Nat) (line : List Char) : List Char :=
  if width = 0 then trimLeft line else line

/-! ### Characters in XML -/

section

variable {c : Char} {line : List Char}

/-- Something stands for every character. -/
theorem textChar_ne_nil (c : Char) : Xml.textChar c ≠ [] := by
  unfold Xml.textChar
  split <;> simp

/-- Blanks stand for themselves. -/
theorem textChar_of_isBlank (h : isBlank c = true) : Xml.textChar c = [c] := by
  unfold Xml.textChar
  split <;> first | rfl | exact absurd h (by decide)

/-- What stands for another character has no blanks around it. -/
theorem trim_textChar (h : isBlank c = false) :
    trimLeft (Xml.textChar c) = Xml.textChar c ∧ trimRight (Xml.textChar c) = Xml.textChar c := by
  unfold Xml.textChar
  split <;> first | decide | simp [trimLeft, trimRight, h]

/-- What stands for a character is blank if the character is. -/
theorem isBlankText_textChar (c : Char) : isBlankText (Xml.textChar c) = isBlank c := by
  cases h : isBlank c with
  | true => rw [textChar_of_isBlank h, isBlankText, List.all_cons, h, List.all_nil, Bool.and_true]
  | false =>
    rw [Bool.eq_false_iff, ne_eq, ← trimRight_eq_nil_iff, (trim_textChar h).2]
    exact textChar_ne_nil c

/-- Only a line feed stands for a line feed. -/
theorem mem_textChar_lineFeed (h : '\n' ∈ Xml.textChar c) : c = '\n' := by
  unfold Xml.textChar at h
  split at h
  -- A mark of its own stands for the first three, and it has no line feed.
  iterate 3 exact absurd h (by decide)
  exact (List.mem_singleton.mp h).symm

/-- What stands for a line is made of what stands for its parts. -/
@[simp] theorem escaped_append (front line : List Char) :
    escaped (front ++ line) = escaped front ++ escaped line :=
  List.flatMap_append

/-- Blanks stand for themselves. -/
theorem escaped_of_blank (h : ∀ c ∈ line, isBlank c = true) : escaped line = line := by
  induction line with
  | nil => rfl
  | cons c line ih =>
    rw [List.forall_mem_cons] at h
    rw [escaped, List.flatMap_cons, textChar_of_isBlank h.1, ← escaped, ih h.2]
    rfl

/-- What stands for a line has no line feed either. -/
theorem lineFeed_notMem_escaped (h : '\n' ∉ line) : '\n' ∉ escaped line := by
  intro hin
  obtain ⟨c, hc, hfeed⟩ := List.mem_flatMap.mp hin
  exact h (mem_textChar_lineFeed hfeed ▸ hc)

/-- What stands for a line is blank if the line is. -/
theorem isBlankText_escaped (line : List Char) :
    isBlankText (escaped line) = isBlankText line := by
  rw [isBlankText, escaped, List.all_flatMap, isBlankText]
  exact congrArg line.all (funext isBlankText_textChar)

/-- Blanks in front of a line are those in front of what stands for it. -/
theorem trimLeft_escaped (line : List Char) :
    trimLeft (escaped line) = escaped (trimLeft line) := by
  induction line with
  | nil => rfl
  | cons c line ih =>
    show trimLeft (Xml.textChar c ++ escaped line) = escaped (trimLeft (c :: line))
    cases h : isBlank c with
    | true =>
      rw [textChar_of_isBlank h, trimLeft, List.singleton_append, List.dropWhile_cons_of_pos h,
        trimLeft, List.dropWhile_cons_of_pos h]
      exact ih
    | false =>
      -- What stands for this character keeps all that follows from being trimmed.
      have hne : (trimLeft (Xml.textChar c)).isEmpty = false := by
        rw [(trim_textChar h).1, List.isEmpty_eq_false_iff]
        exact textChar_ne_nil c
      rw [trimLeft, List.dropWhile_append, ← trimLeft, hne, if_neg Bool.false_ne_true,
        (trim_textChar h).1, trimLeft, List.dropWhile_cons_of_neg (by simp [h])]
      rfl

/-- Blanks behind a line are those behind what stands for it. -/
theorem trimRight_escaped (line : List Char) :
    trimRight (escaped line) = escaped (trimRight line) := by
  -- The induction is from the end of the line, where blanks are taken away.
  induction line using List.reverseRecOn with
  | nil => rfl
  | append_singleton line c ih =>
    have hlast : escaped [c] = Xml.textChar c := List.flatMap_singleton ..
    rw [escaped_append, hlast, trimRight_append, trimRight_append, isBlankText_textChar]
    cases h : isBlank c with
    | true => simpa [isBlankText, h] using ih
    | false =>
      have hkept : trimRight [c] = [c] := by simp [trimRight, h]
      simp [isBlankText, h, (trim_textChar h).2, hkept, hlast]

/-- What stands for a line shows whether blanks were taken away in front. -/
theorem escaped_trimLeft_eq_iff :
    escaped (trimLeft line) = escaped line ↔ trimLeft line = line := by
  refine ⟨fun h => ?_, congrArg escaped⟩
  have hparts : line.takeWhile isBlank ++ trimLeft line = line := List.takeWhile_append_dropWhile
  have hblanks : escaped (line.takeWhile isBlank) = line.takeWhile isBlank :=
    escaped_of_blank fun _ hc => List.mem_takeWhile_imp hc
  have hnone : line.takeWhile isBlank = [] := by
    rw [← hparts, escaped_append, hblanks, hparts] at h
    exact List.self_eq_append_left.mp h
  rwa [hnone] at hparts

end

/-! ### Content -/

section

variable {width : Nat} {content : List (List Char)}

/-- Without an indentation a line loses its blanks in front. -/
theorem keptLine_zero : keptLine 0 = trimLeft := rfl

/-- With an indentation a line is kept as it is. -/
theorem keptLine_of_ne_zero (h : width ≠ 0) : keptLine width = id :=
  funext fun _ => if_neg h

namespace IsContent

/-- Content has a line, since it begins with one. -/
theorem ne_nil (h : IsContent content) : content ≠ [] := by
  rintro rfl
  obtain ⟨line, hline, -⟩ := h.begins
  cases hline

/-- Content is still content if each line keeps its end and is not emptied. -/
theorem map (h : IsContent content) {f : List Char → List Char}
    (hbreak : ∀ line, '\n' ∉ line → '\n' ∉ f line)
    (htrim : ∀ line, trimRight line = line → trimRight (f line) = f line)
    (hblank : ∀ line, isBlankText (f line) = isBlankText line) : IsContent (content.map f) where
  unbroken := List.forall_mem_map.mpr fun line hline => hbreak line (h.unbroken line hline)
  trimmed := List.forall_mem_map.mpr fun line hline => htrim line (h.trimmed line hline)
  begins := by
    obtain ⟨line, hline, hfirst⟩ := h.begins
    exact ⟨f line, by rw [List.head?_map, hline]; rfl, (hblank line).trans hfirst⟩
  ends := by
    obtain ⟨line, hline, hlast⟩ := h.ends
    exact ⟨f line, by rw [List.getLast?_map, hline]; rfl, (hblank line).trans hlast⟩

/-- What stands for content is content. -/
theorem escaped (h : IsContent content) : IsContent (content.map escaped) :=
  h.map (fun _ => lineFeed_notMem_escaped)
    (fun line hline => by rw [trimRight_escaped, hline]) isBlankText_escaped

/-- What is kept of content is content. -/
theorem kept (h : IsContent content) (width : Nat) : IsContent (content.map (keptLine width)) := by
  by_cases hwidth : width = 0
  · rw [hwidth, keptLine_zero]
    exact h.map (fun line hbreak hin => hbreak ((List.dropWhile_suffix isBlank).subset hin))
      (fun _ => trimRight_trimLeft) isBlankText_trimLeft
  · rwa [keptLine_of_ne_zero hwidth, List.map_id]

end IsContent

/-! ### The lines between the tags -/

variable {text : List Char} {line written : List Char} {element : Xml.Element}

/-- An indentation is made of blanks. -/
theorem isBlank_of_mem_indentation {c : Char} (h : c ∈ indentation width) : isBlank c = true := by
  rw [List.eq_of_mem_replicate h]
  rfl

/-- An indentation is blank as a whole. -/
theorem isBlankText_indentation (width : Nat) : isBlankText (indentation width) = true :=
  List.all_eq_true.mpr fun _ => isBlank_of_mem_indentation

/-- An indentation stands for itself. -/
theorem escaped_indentation (width : Nat) : escaped (indentation width) = indentation width :=
  escaped_of_blank fun _ => isBlank_of_mem_indentation

/-- Between the tags stands what stands for the text. -/
theorem inner_of_holdsText (h : HoldsText element text) : element.inner = escaped text := by
  obtain ⟨pieces, hcontent, rfl⟩ := h
  rw [Xml.Element.inner, hcontent, List.flatMap_map, escaped, List.flatMap_assoc]
  rfl

/-- Line breaks are sought in a line in vain, unless its end could be part of one. -/
theorem rewrites_line (hbreak : '\n' ∉ line) (hend : line.getLast? ≠ some '\r') :
    Rewrites (occurrence? ['\r', '\n'] ['\n']) line line := by
  induction line with
  | nil => exact .nil
  | cons c line ih =>
    rw [List.mem_cons, not_or] at hbreak
    cases line with
    | nil =>
      have hc : c ≠ '\r' := fun h => hend (congrArg some h)
      exact .cons (fun rest => occurrence?_eq_none (not_prefix_of_ne hc _ _)) .nil
    | cons d line =>
      rw [List.getLast?_cons_cons] at hend
      -- A line break here would have its line feed inside the line.
      refine .cons (fun rest => occurrence?_eq_none fun hprefix => ?_) (ih hbreak.2 hend)
      rw [List.cons_append, List.cons_prefix_cons, List.cons_prefix_cons] at hprefix
      exact hbreak.2 (List.mem_cons.mpr (.inl hprefix.2.1))

/-- Neither a part nor the beginning of a line break stands in a written line. -/
theorem IsIndented.unbroken (h : IsIndented width line written) (hbreak : '\n' ∉ line)
    (htrimmed : trimRight line = line) :
    '\n' ∉ escaped written ∧ (escaped written).getLast? ≠ some '\r' := by
  cases h with
  | line =>
    rw [escaped_append, escaped_indentation, List.mem_append, not_or, List.getLast?_append]
    refine ⟨⟨lineFeed_notMem_indentation width, lineFeed_notMem_escaped hbreak⟩, fun hend => ?_⟩
    obtain hend | ⟨-, hend⟩ := Option.or_eq_some_iff.mp hend
    -- A carriage return is blank, and the line does not end with a blank.
    · rw [← htrimmed, ← trimRight_escaped] at hend
      exact absurd (getLast?_trimRight hend) (by decide)
    · exact absurd (List.eq_of_mem_replicate (List.mem_of_getLast? hend)) (by decide)
  | blank => exact ⟨List.not_mem_nil, nofun⟩

/-- Written lines have no line feed and do not end in half of a line break. -/
theorem unbroken_of_forall₂ {rows written : List (List Char)}
    (h : List.Forall₂ (IsIndented width) rows written)
    (hrows : ∀ line ∈ rows, '\n' ∉ line ∧ trimRight line = line) :
    ∀ line ∈ written.map escaped, '\n' ∉ line ∧ line.getLast? ≠ some '\r' := by
  induction h with
  | nil => exact List.forall_mem_nil _
  | cons hline _ ih =>
    rw [List.forall_mem_cons] at hrows
    rw [List.map_cons, List.forall_mem_cons]
    exact ⟨hline.unbroken hrows.1.1 hrows.1.2, ih hrows.2⟩

/-- The lines between the tags are read back as they were written, the last one included. -/
theorem lines_inner (hcontent : IsContent content) (htext : IsLaidOut width content text)
    (helement : HoldsText element text) :
    ∃ written, List.Forall₂ (IsIndented width) ([] :: content ++ [[]])
        ([] :: written ++ [indentation width]) ∧
      lines element.inner = ([] :: written ++ [indentation width]).map escaped := by
  obtain ⟨lineBreak, written, hbreak, hwritten, rfl⟩ := htext
  have hlast : IsIndented width [] (indentation width) := by
    have h : IsIndented width [] (indentation width ++ []) := .line []
    rwa [List.append_nil] at h
  -- What stands in the lines of the two tags is indented as if it were content too.
  have hrows : List.Forall₂ (IsIndented width) ([] :: content ++ [[]])
      ([] :: written ++ [indentation width]) :=
    .cons .blank (List.rel_append hwritten (.cons hlast .nil))
  refine ⟨written, hrows, ?_⟩
  have hlines := unbroken_of_forall₂ hrows fun line hline => by
    rw [List.mem_append, List.mem_cons, List.mem_singleton] at hline
    obtain (rfl | hline) | rfl := hline
    · exact ⟨List.not_mem_nil, rfl⟩
    · exact ⟨hcontent.unbroken line hline, hcontent.trimmed line hline⟩
    · exact ⟨List.not_mem_nil, rfl⟩
  have hescaped : escaped lineBreak = lineBreak := by
    obtain rfl | rfl := hbreak <;> decide
  have hrewrites : Rewrites (occurrence? ['\r', '\n'] ['\n']) lineBreak ['\n'] := by
    obtain rfl | rfl := hbreak
    · exact .cons (fun rest => occurrence?_eq_none (not_prefix_of_ne (by decide) _ _)) .nil
    · exact rewrites_pattern (List.cons_ne_nil _ _)
  -- Line breaks are unified between the lines only, so that the lines can be taken apart there.
  have hunified := hrewrites.intercalate fun line hline =>
    rewrites_line (hlines line hline).1 (hlines line hline).2
  rw [inner_of_holdsText helement, lines, escaped, flatMap_intercalate, ← escaped, hescaped,
    replaceAll_eq]
  exact (congrArg _ hunified.substitute_eq).trans
    (List.splitOn_intercalate _ (fun line hline => (hlines line hline).1) (by simp))

/-! ### Dedented lines -/

/-- The line of the end tag tells the width. -/
theorem commonIndent_written (written : List (List Char)) :
    commonIndent (([] :: written ++ [indentation width]).map escaped) = width := by
  have hlast : (([] :: written ++ [indentation width]).map escaped).getLast?
      = some (indentation width) := by
    rw [List.map_append, List.map_singleton, escaped_indentation, List.getLast?_concat]
  have hlength : (indentation width).length = width := List.length_replicate
  unfold commonIndent
  split
  · rw [hlast]
    show (if isBlankText (indentation width) then _ else 0) = width
    rw [if_pos (isBlankText_indentation width), hlength]
  -- There are at least the lines of the two tags.
  · next hfew =>
    cases written <;> exact absurd rfl (hfew _ _ _)

/-- A line loses its indentation, or any blanks in front if there is no indentation. -/
theorem dedentLine_escaped (h : IsIndented width line written) :
    dedentLine width (escaped written) = escaped (keptLine width line) := by
  cases h with
  | line =>
    rw [escaped_append, escaped_indentation]
    by_cases hwidth : width = 0
    · -- An empty margin does not count as blank, so the line is trimmed instead of cut.
      subst hwidth
      exact trimLeft_escaped line
    · have hlength : (indentation width).length = width := List.length_replicate
      -- The margin is the indentation, which is blank and cut away.
      have hmargin : (indentation width ++ escaped line).take width = indentation width :=
        List.take_left' hlength
      have hne : (indentation width).isEmpty = false := by
        rw [List.isEmpty_eq_false_iff, ← List.length_pos_iff]
        omega
      rw [dedentLine, hmargin, hne, isBlankText_indentation, keptLine_of_ne_zero hwidth]
      exact List.drop_left' hlength
  | blank =>
    by_cases hwidth : width = 0 <;> simp [dedentLine, keptLine, escaped, trimLeft, hwidth]

/-- All lines lose their indentation. -/
theorem map_dedentLine {rows written : List (List Char)}
    (h : List.Forall₂ (IsIndented width) rows written) :
    (written.map escaped).map (dedentLine width) = (rows.map (keptLine width)).map escaped := by
  induction h with
  | nil => rfl
  | cons hline _ ih => simp only [List.map_cons, dedentLine_escaped hline, ih]

/-- Nothing is dropped in front of a line that is not blank. -/
theorem dropWhile_of_head? (h : ∃ line ∈ content.head?, isBlankText line = false) :
    content.dropWhile isBlankText = content := by
  obtain ⟨line, hline, hblank⟩ := h
  obtain ⟨others, rfl⟩ := List.head?_eq_some_iff.mp hline
  exact List.dropWhile_cons_of_neg (by simp [hblank])

/-- Of content between two blank lines, the content is left. -/
theorem dropBlankEnds_parted (h : IsContent content) :
    dropBlankEnds ([] :: content ++ [[]]) = content := by
  have hbegins : ∃ line ∈ (content ++ [[]]).head?, isBlankText line = false := by
    obtain ⟨line, hline, hblank⟩ := h.begins
    exact ⟨line, by rw [List.head?_append, hline]; rfl, hblank⟩
  have hends : ∃ line ∈ content.reverse.head?, isBlankText line = false := by
    rw [List.head?_reverse]
    exact h.ends
  -- The content begins and ends with lines that are not blank, so only the two ends are dropped.
  have hfront : ([] :: content ++ [[]]).dropWhile isBlankText = content ++ [[]] :=
    dropWhile_of_head? hbegins
  have hback : (content ++ [[]]).reverse.dropWhile isBlankText = content.reverse := by
    rw [List.reverse_append]
    exact dropWhile_of_head? hends
  rw [dropBlankEnds, hfront, hback, List.reverse_reverse]

/-- The text of a summary is made of what is kept of its lines. -/
theorem summaryText_eq (hcontent : IsContent content) (htext : IsLaidOut width content text)
    (helement : HoldsText element text) :
    summaryText element = .ofList (escapedLines (content.map (keptLine width))) := by
  obtain ⟨written, hwritten, hlines⟩ := lines_inner hcontent htext helement
  have hkept := (hcontent.kept width).escaped
  -- Nothing is kept of the two empty ends.
  have hnothing : keptLine width [] = [] := ite_self _
  have htrimmed : ((content.map (keptLine width)).map escaped).map trimRight
      = (content.map (keptLine width)).map escaped :=
    List.map_congr_left hkept.trimmed |>.trans (List.map_id' _)
  rw [summaryText, hlines, dedent, commonIndent_written, map_dedentLine hwritten]
  simp only [List.map_append, List.map_cons, List.map_nil, hnothing]
  rw [show escaped [] = [] from rfl, dropBlankEnds_parted hkept, htrimmed, escapedLines]

/-! ### Summaries -/

/-- Content can be told from what stands for it, line by line. -/
theorem escapedLines_inj {content' : List (List Char)} (h : IsContent content)
    (h' : IsContent content') :
    escapedLines content = escapedLines content' ↔ content.map escaped = content'.map escaped := by
  refine ⟨fun heq => ?_, congrArg _⟩
  have hsplit := congrArg (List.splitOn '\n') heq
  rwa [escapedLines, List.splitOn_intercalate _ h.escaped.unbroken h.escaped.ne_nil, escapedLines,
    List.splitOn_intercalate _ h'.escaped.unbroken h'.escaped.ne_nil] at hsplit

/-- All of the lines is kept if there is an indentation or no line begins with blanks. -/
theorem map_keptLine_escaped_iff :
    (content.map (keptLine width)).map escaped = content.map escaped
      ↔ 0 < width ∨ ∀ line ∈ content, trimLeft line = line := by
  by_cases hwidth : width = 0
  · rw [hwidth, keptLine_zero, or_iff_right (lt_irrefl 0), List.map_map, List.map_inj_left]
    exact forall₂_congr fun _ _ => escaped_trimLeft_eq_iff
  · rw [keptLine_of_ne_zero hwidth, List.map_id]
    exact iff_of_true rfl (.inl (Nat.pos_of_ne_zero hwidth))

/-- **Summaries** are the lines between their tags, without the indentation of the end tag.  What
the lines begin with behind it is kept if the end tag is indented, but if it is not, no blanks in
front of a line are. -/
theorem summary_lines_kept_iff (width : Nat) (content : List (List Char)) (text : List Char)
    (element : Xml.Element) (hcontent : IsContent content) (htext : IsLaidOut width content text)
    (helement : HoldsText element text) :
    summaryText element
        = .ofList (escapedLines (if width = 0 then content.map trimLeft else content)) ∧
      (summaryText element = .ofList (escapedLines content) ↔
        0 < width ∨ ∀ line ∈ content, trimLeft line = line) := by
  have hsummary := summaryText_eq hcontent htext helement
  constructor
  · rw [hsummary]
    by_cases hwidth : width = 0
    · rw [if_pos hwidth, hwidth, keptLine_zero]
    · rw [if_neg hwidth, keptLine_of_ne_zero hwidth, List.map_id]
  · rw [hsummary, String.ofList_inj, escapedLines_inj (hcontent.kept width) hcontent,
      map_keptLine_escaped_iff]

/-- A summary that goes on with a list. -/
def familyLines : List (List Char) :=
  ["A person:".toList, [], "  - of a family".toList, "- & more".toList]

/-- The summary between its tags, with nothing on its blank line. -/
def familyText : String :=
  "\n    A person:\n\n      - of a family\n    - & more\n    "

/-- The element of the summary. -/
def familySummary : Xml.Element where
  name := ⟨"summary", none⟩
  attributes := []
  content := [.text familyText]

/-- A summary with a list, whose indentation behind that of the end tag is kept. -/
theorem summary_lines_kept_iff_family :
    IsContent familyLines ∧ IsLaidOut 4 familyLines familyText.toList ∧
      HoldsText familySummary familyText.toList ∧
      summaryText familySummary = "A person:\n\n  - of a family\n- &amp; more" := by
  have hcontent : IsContent familyLines :=
    ⟨by decide, by decide, ⟨_, rfl, by decide⟩, ⟨_, rfl, by decide⟩⟩
  have htext : IsLaidOut 4 familyLines familyText.toList :=
    ⟨_, _, .inl rfl, .cons (.line _) (.cons .blank (.cons (.line _) (.cons (.line _) .nil))), rfl⟩
  have helement : HoldsText familySummary familyText.toList := ⟨[familyText], rfl, rfl⟩
  have hkept := (summary_lines_kept_iff 4 familyLines familyText.toList familySummary hcontent htext
    helement).2.mpr (.inl (by decide))
  refine ⟨hcontent, htext, helement, ?_⟩
  rw [hkept]
  decide

/-- A summary with an indented line, and no indentation in front of its end tag. -/
def shiftedSummary : Xml.Element where
  name := ⟨"summary", none⟩
  attributes := []
  content := [.text "\na\n  b\n"]

/-- A line loses what it begins with if the end tag stands at the margin. -/
theorem extra_indentation_lost :
    IsContent [['a'], "  b".toList] ∧
      IsLaidOut 0 [['a'], "  b".toList] "\na\n  b\n".toList ∧
      HoldsText shiftedSummary "\na\n  b\n".toList ∧
      summaryText shiftedSummary = "a\nb" ∧
      String.ofList (escapedLines [['a'], "  b".toList]) = "a\n  b" := by
  refine ⟨⟨by decide, by decide, ⟨_, rfl, by decide⟩, ⟨_, rfl, by decide⟩⟩, ?_,
    ⟨["\na\n  b\n"], rfl, rfl⟩, by decide, by decide⟩
  exact ⟨_, _, .inl rfl, .cons (.line _) (.cons (.line _) .nil), rfl⟩

end

end TypeExport.Documentation
