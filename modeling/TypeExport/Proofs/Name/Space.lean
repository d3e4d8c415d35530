import TypeExport.Name.Space
import Mathlib.Tactic.Common

/-!
# Namespaces by their segments

A namespace is compared with a root as a text, and what is below the root is cut off by the length
of the root.  Both treat whole segments: `Rock.ModelExtras` is not under `Rock.Model`, although its
text begins with that of the root.

* `Segments`, `Segments.text` — the segments of a namespace, and the namespace that they are
  written as (`Segments.splitOn_text` reads them back).
* `Segments.isPrefixOf_text_iff` — where a dot behind the root begins a further segment.
* `isUnder_text_iff`, `below_text` — the test, and the segments below.
* `under_root_by_segments` — both together, and that a root and what is below it make the namespace.
-/

namespace TypeExport.Name

/-- The segments of a namespace: at least one, none empty, and no dot in any of them. -/
structure Segments where
  list : List String
  ne_nil : list ≠ []
  nonempty : ∀ segment ∈ list, segment ≠ ""
  undotted : ∀ segment ∈ list, '.' ∉ segment.toList

namespace Segments

variable {root space other : Segments}

/-- The namespace: its segments with a dot between them. -/
def text (space : Segments) : String :=
  ".".intercalate space.list

/-- Segments without dots are what stands between the dots. -/
theorem splitOn_intercalate {segments : List String} (hne : segments ≠ [])
    (h : ∀ segment ∈ segments, '.' ∉ segment.toList) :
    (".".intercalate segments).toList.splitOn '.' = segments.map String.toList := by
  rw [String.toList_intercalate]
  refine List.splitOn_intercalate '.' (fun chars hchars => ?_) (by simpa using hne)
  obtain ⟨segment, hsegment, rfl⟩ := List.mem_map.mp hchars
  exact h segment hsegment

/-- The text of segments is split into them. -/
theorem splitOn_text (space : Segments) :
    space.text.toList.splitOn '.' = space.list.map String.toList :=
  splitOn_intercalate space.ne_nil space.undotted

/-- What the text is split into are the segments. -/
theorem list_eq_of_splitOn {chars : List (List Char)}
    (h : space.text.toList.splitOn '.' = chars) : space.list = chars.map String.ofList := by
  rw [← h, splitOn_text, List.map_map]
  simp [Function.comp_def]

/-- Different segments make different namespaces. -/
theorem list_eq_of_text_eq (h : space.text = other.text) : space.list = other.list := by
  rw [list_eq_of_splitOn rfl, h, ← list_eq_of_splitOn rfl]

/-- The text of segments is not empty. -/
theorem text_ne_empty (space : Segments) : space.text ≠ "" := by
  intro hempty
  have hlist : space.list = (space.text.toList.splitOn '.').map String.ofList :=
    list_eq_of_splitOn rfl
  rw [hempty, String.toList_empty, List.splitOn_nil] at hlist
  exact space.nonempty "" (by simp [hlist]) rfl

/-- The namespace of a root and further segments is that of the root, a dot and the others. -/
theorem toList_text_of_append {rest : List String} (h : space.list = root.list ++ rest)
    (hrest : rest ≠ []) :
    space.text.toList = root.text.toList ++ '.' :: (".".intercalate rest).toList := by
  rw [text, h, String.intercalate_append_of_ne_nil root.ne_nil hrest, String.toList_append,
    String.toList_append, List.append_assoc]
  rfl

/-- A namespace goes on behind a root and a dot if and only if it has further segments there. -/
theorem isPrefixOf_text_iff :
    root.text.toList ++ ['.'] <+: space.text.toList ↔
      ∃ rest, rest ≠ [] ∧ space.list = root.list ++ rest := by
  constructor
  · rintro ⟨behind, hbehind⟩
    -- The dot behind the root parts the segments of the root from those of the rest.
    have hsplit : space.text.toList.splitOn '.'
        = root.list.map String.toList ++ behind.splitOn '.' := by
      rw [← hbehind, List.append_assoc, List.singleton_append, List.splitOn_append_cons_self,
        splitOn_text]
    refine ⟨(behind.splitOn '.').map String.ofList, by simp, ?_⟩
    rw [list_eq_of_splitOn hsplit, List.map_append, ← splitOn_text, ← list_eq_of_splitOn rfl]
  · rintro ⟨rest, hrest, hlist⟩
    refine ⟨(".".intercalate rest).toList, ?_⟩
    rw [toList_text_of_append hlist hrest, List.append_assoc]
    rfl

end Segments

variable {root space : Segments}

/-- The test asks for the segments of the root in front. -/
theorem isUnder_text_iff :
    isUnder (some space.text) root.text = true ↔ root.list <+: space.list := by
  have htest : isUnder (some space.text) root.text = true ↔
      space.text = root.text ∨ root.text.toList ++ ['.'] <+: space.text.toList := by
    simp [isUnder, space.text_ne_empty]
  rw [htest, Segments.isPrefixOf_text_iff]
  constructor
  · rintro (htext | ⟨rest, -, hlist⟩)
    · exact Segments.list_eq_of_text_eq htext ▸ List.prefix_refl root.list
    · exact ⟨rest, hlist.symm⟩
  · rintro ⟨rest, hlist⟩
    -- Without remaining segments, the namespace is the root itself.
    by_cases hrest : rest = []
    · left
      rw [Segments.text, ← hlist, hrest, List.append_nil]
      rfl
    · exact .inr ⟨rest, hrest, hlist.symm⟩

/-- What is below a root are the segments behind those of the root. -/
theorem below_text {rest : List String} (h : space.list = root.list ++ rest) :
    below space.text root.text = rest := by
  by_cases hrest : rest = []
  · have htext : space.text = root.text := by
      rw [Segments.text, h, hrest, List.append_nil]
      rfl
    rw [below, htext, hrest, List.drop_length]
    rfl
  · have hbelow : space.text.toList.drop root.text.toList.length
        = '.' :: (".".intercalate rest).toList := by
      rw [Segments.toList_text_of_append h hrest, List.drop_left]
    have hmem : ∀ segment ∈ rest, segment ∈ space.list := fun segment hsegment =>
      h ▸ List.mem_append_right root.list hsegment
    have hsplit := Segments.splitOn_intercalate hrest fun segment hsegment =>
      space.undotted segment (hmem segment hsegment)
    -- The dot behind the root leaves an empty piece in front, which is dropped.
    have hpieces : ('.' :: (".".intercalate rest).toList).splitOn '.'
        = [] :: rest.map String.toList := by
      rw [← hsplit]
      have hnot : '.' ∉ ([] : List Char) := List.not_mem_nil
      exact List.splitOn_append_cons_self_of_not_mem hnot _
    have hkept : (rest.map String.toList).filter (!·.isEmpty) = rest.map String.toList := by
      rw [List.filter_eq_self]
      intro chars hchars
      obtain ⟨segment, hsegment, rfl⟩ := List.mem_map.mp hchars
      simpa using space.nonempty segment (hmem segment hsegment)
    rw [below, hbelow, hpieces, List.filter_cons_of_neg (by simp), hkept, List.map_map]
    simp [Function.comp_def]

/-- **Whole segments.**  A namespace is under a root if and only if it begins with the segments of
the root.  What is below the root are then exactly the remaining segments, so root and remaining
segments make the namespace again, and no two namespaces under a root have the same segments
below it. -/
theorem under_root_by_segments (root space : Segments) :
    (isUnder (some space.text) root.text = true ↔ root.list <+: space.list) ∧
    (isUnder (some space.text) root.text = true →
      below space.text root.text = space.list.drop root.list.length ∧
      ".".intercalate (root.list ++ below space.text root.text) = space.text) ∧
    ∀ other : Segments, isUnder (some space.text) root.text = true →
      isUnder (some other.text) root.text = true → space.text ≠ other.text →
      below space.text root.text ≠ below other.text root.text := by
  refine ⟨isUnder_text_iff, fun hunder => ?_, fun other hunder hother hne heq => hne ?_⟩
  · obtain ⟨rest, hlist⟩ := isUnder_text_iff.mp hunder
    have hbelow := below_text hlist.symm
    constructor
    · rw [hbelow, ← hlist, List.drop_left]
    · rw [hbelow, hlist]
      rfl
  · obtain ⟨rest, hlist⟩ := isUnder_text_iff.mp hunder
    obtain ⟨others, hothers⟩ := isUnder_text_iff.mp hother
    -- The root and what is below it make the namespace again, so equal remainders would make equal
    -- texts.
    rw [below_text hlist.symm, below_text hothers.symm] at heq
    rw [Segments.text, Segments.text, ← hlist, ← hothers, heq]

/-- Two namespaces under a root, and one that only begins with the same letters. -/
theorem under_root_by_segments_enums :
    let root : Segments := ⟨["Rock", "Enums"], by decide, by decide, by decide⟩
    let crm : Segments := ⟨["Rock", "Enums", "Crm"], by decide, by decide, by decide⟩
    let core : Segments := ⟨["Rock", "Enums", "Core"], by decide, by decide, by decide⟩
    let old : Segments := ⟨["Rock", "EnumsOfOld", "Crm"], by decide, by decide, by decide⟩
    isUnder (some crm.text) root.text = true ∧ below crm.text root.text = ["Crm"] ∧
      ".".intercalate (root.list ++ below crm.text root.text) = "Rock.Enums.Crm" ∧
      below crm.text root.text ≠ below core.text root.text ∧
      isUnder (some old.text) root.text = false := by
  intro root crm core old
  obtain ⟨hcrm, hbelow, hdistinct⟩ := under_root_by_segments root crm
  have hunder : isUnder (some crm.text) root.text = true := hcrm.mpr (by decide)
  have hcore : isUnder (some core.text) root.text = true :=
    (under_root_by_segments root core).1.mpr (by decide)
  have hold : ¬ isUnder (some old.text) root.text = true :=
    mt (under_root_by_segments root old).1.mp (by decide)
  obtain ⟨hsegments, htext⟩ := hbelow hunder
  exact ⟨hunder, hsegments, htext.trans (by decide), hdistinct core hunder hcore (by decide),
    Bool.eq_false_iff.mpr hold⟩

end TypeExport.Name
