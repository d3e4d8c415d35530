import TypeExport.Proofs.Outcome
import TypeExport.Proofs.SourceFile.Usings
import TypeExport.Proofs.Text.Searching

/-!
# Blocks of using directives

Grouping compares neighbours only, so a block is whole only if sorting puts all namespaces with the
same first segment side by side.  Whole names are compared, and the character behind a first segment
decides where a name goes: as long as no character sorts in front of the dot, the first segments of
sorted namespaces are sorted themselves.

* `usedSpace?`, `usingBlocks?` — the namespaces that a text names, block by block.
* `usingBlocks?_intercalate` — blocks are read back.
* `rootSegment_of_lt`, `byRoot_of_bySpace` — the first segments of sorted namespaces.
* `pairwise_groupByRoot` — where first segments are sorted, groups have different ones.
* `DividesByRoot` — namespaces in blocks, one block for each first segment.
* `usings_read_back` — using directives are read back in such blocks.
-/

namespace TypeExport

open Text
open Name (rootSegment)

/-! ### Reading -/

/-- The namespace that a using directive names. -/
def usedSpace? (line : List Char) : Option String :=
  (behind? "using ".toList line).bind fun rest =>
    if rest.getLast? = some ';' then some (.ofList rest.dropLast) else none

/-- The namespaces that a text of using directives names.  An empty line ends a block, so two of
them would leave an empty block. -/
def usingBlocks? (text : String) : Option (List (List String)) :=
  (endedLines? text.toList).bind fun lines =>
    if lines = [] then some []
    else (lines.splitOn []).mapM fun block => block.mapM usedSpace?

/-- The line of a using directive. -/
def usingLine (space : String) : List Char :=
  ("using " ++ space ++ ";").toList

/-- A line of usings has the namespace between the keyword and the semicolon. -/
theorem usingLine_eq (space : String) :
    usingLine space = "using ".toList ++ (space.toList ++ [';']) := by
  unfold usingLine
  rw [String.toList_append, String.toList_append, List.append_assoc]
  rfl

/-- The namespace of a line is read back. -/
theorem usedSpace?_usingLine (space : String) : usedSpace? (usingLine space) = some space := by
  rw [usedSpace?, usingLine_eq, behind?_append, Option.bind_some, List.getLast?_concat, if_pos rfl,
    List.dropLast_concat, String.ofList_toList]

/-- A line of usings is not empty. -/
theorem usingLine_ne_nil (space : String) : usingLine space ≠ [] := by
  rw [usingLine_eq]
  exact List.append_ne_nil_of_left_ne_nil (by decide) _

/-- A namespace without line feeds is used on one line. -/
theorem lineFeed_notMem_usingLine {space : String} (h : '\n' ∉ space.toList) :
    '\n' ∉ usingLine space := by
  have hkeyword : '\n' ∉ "using ".toList := by decide
  rw [usingLine_eq]
  simp only [List.mem_append, not_or]
  exact ⟨hkeyword, h, by decide⟩

/-- A block is its lines with their ends. -/
theorem toList_usingGroup (spaces : List String) :
    (usingGroup spaces).toList = (spaces.map usingLine).flatMap (· ++ ['\n']) := by
  have hend : ";\n".toList = [';'] ++ ['\n'] := rfl
  simp only [usingGroup, usingLine_eq, String.toList_join, List.flatMap_map, String.toList_append,
    hend, List.append_assoc]

section

variable {blocks : List (List String)}

/-- The lines of several blocks, with an empty one between two blocks. -/
def blockLines (blocks : List (List String)) : List (List Char) :=
  [[]].intercalate (blocks.map (·.map usingLine))

/-- Blocks with an empty line between them are their lines with their ends. -/
theorem toList_intercalate_usingGroup (blocks : List (List String)) :
    ("\n".intercalate (blocks.map usingGroup)).toList
      = (blockLines blocks).flatMap (· ++ ['\n']) := by
  have hgroups : (blocks.map usingGroup).map String.toList
      = (blocks.map (·.map usingLine)).map (List.flatMap (· ++ ['\n'])) := by
    simp [toList_usingGroup]
  rw [String.toList_intercalate, hgroups, blockLines, flatMap_intercalate]
  rfl

/-- The lines are those of the blocks, and the empty ones. -/
theorem eq_nil_or_of_mem_blockLines {line : List Char} (h : line ∈ blockLines blocks) :
    line = [] ∨ ∃ space ∈ blocks.flatten, line = usingLine space := by
  refine (mem_of_mem_intercalate h).imp List.mem_singleton.mp fun ⟨lines, hlines, hline⟩ => ?_
  obtain ⟨block, hblock, rfl⟩ := List.mem_map.mp hlines
  obtain ⟨space, hspace, rfl⟩ := List.mem_map.mp hline
  exact ⟨space, List.mem_flatten_of_mem hblock hspace, rfl⟩

/-- **Blocks** are read back, as long as none of them is empty. -/
theorem usingBlocks?_intercalate (hblocks : [] ∉ blocks)
    (hfeed : ∀ space ∈ blocks.flatten, '\n' ∉ space.toList) :
    usingBlocks? ("\n".intercalate (blocks.map usingGroup)) = some blocks := by
  have hlines : ∀ line ∈ blockLines blocks, '\n' ∉ line := by
    intro line hline
    obtain rfl | ⟨space, hspace, rfl⟩ := eq_nil_or_of_mem_blockLines hline
    · exact List.not_mem_nil
    · exact lineFeed_notMem_usingLine (hfeed space hspace)
  rw [usingBlocks?, toList_intercalate_usingGroup, endedLines?_flatMap hlines, Option.bind_some]
  cases blocks with
  | nil => rfl
  | cons block blocks =>
    -- The first block is not empty, so there are lines; they are divided where they were joined.
    have hsplit : (blockLines (block :: blocks)).splitOn []
        = (block :: blocks).map (·.map usingLine) := by
      refine List.splitOn_intercalate [] (fun lines hlines hempty => ?_) (by simp)
      obtain ⟨spaces, -, rfl⟩ := List.mem_map.mp hlines
      obtain ⟨space, -, hspace⟩ := List.mem_map.mp hempty
      exact usingLine_ne_nil space hspace
    have hne : blockLines (block :: blocks) ≠ [] := by
      intro hnil
      rw [hnil, List.splitOn_nil, List.map_cons, List.cons.injEq, eq_comm, List.map_eq_nil_iff]
        at hsplit
      exact hblocks (hsplit.1 ▸ List.mem_cons_self)
    rw [if_neg hne, hsplit]
    exact Option.mapM_map_eq_some fun spaces _ =>
      Option.mapM_map_eq_some fun space _ => usedSpace?_usingLine space

end

/-! ### First segments of sorted namespaces -/

/-- Of two texts in order, what stands in front of the first dots is in order too, because a text
that ends in a dot or there comes before all that go on with another character. -/
theorem takeWhile_of_lt {a b : List Char} (ha : ∀ c ∈ a, c = '.' ∨ '.' < c) (hlt : a < b) :
    a.takeWhile (· ≠ '.') = b.takeWhile (· ≠ '.') ∨
      a.takeWhile (· ≠ '.') < b.takeWhile (· ≠ '.') := by
  induction a generalizing b with
  | nil =>
    cases hb : b.takeWhile (· ≠ '.') with
    | nil => exact .inl rfl
    | cons c rest => exact .inr (List.nil_lt_cons c rest)
  | cons c a ih =>
    obtain ⟨hc, ha⟩ := List.forall_mem_cons.mp ha
    cases b with
    | nil => exact absurd hlt (List.not_lt_nil _)
    | cons d b =>
      by_cases hdot : c = '.'
      · -- Nothing stands in front of the first text's dot, and no text comes before that.
        rw [hdot, List.takeWhile_cons_of_neg (by simp)]
        cases hb : (d :: b).takeWhile (· ≠ '.') with
        | nil => exact .inl rfl
        | cons e rest => exact .inr (List.nil_lt_cons e rest)
      · have hc : '.' < c := hc.resolve_left hdot
        rw [List.takeWhile_cons_of_pos (by simpa using hdot)]
        obtain hless | ⟨rfl, hrest⟩ := List.cons_lt_cons_iff.mp hlt
        · -- The second text goes on with a greater character, which is no dot either.
          have hd : d ≠ '.' := fun heq => absurd (heq ▸ hless) (lt_asymm hc)
          rw [List.takeWhile_cons_of_pos (by simpa using hd)]
          exact .inr (List.cons_lt_cons_iff.mpr (.inl hless))
        · rw [List.takeWhile_cons_of_pos (by simpa using hdot)]
          refine (ih ha hrest).imp (fun heq => by rw [heq]) fun hless => ?_
          exact List.cons_lt_cons_iff.mpr (.inr ⟨rfl, hless⟩)

/-- The first segments of two namespaces in order are the same or in order. -/
theorem rootSegment_of_lt {a b : String} (ha : ∀ c ∈ a.toList, c = '.' ∨ '.' < c) (hlt : a < b) :
    rootSegment a = rootSegment b ∨ rootSegment a < rootSegment b := by
  refine (takeWhile_of_lt ha (String.lt_iff_toList_lt.mp hlt)).imp (fun heq => ?_) fun hless => ?_
  · rw [rootSegment, rootSegment, heq]
  · rw [String.lt_iff_toList_lt, rootSegment, rootSegment, String.toList_ofList,
      String.toList_ofList]
    exact hless

/-- First segments, with that of the system before all others. -/
def byRoot (a b : String) : Bool :=
  if (a == "System") == (b == "System") then byCodePoint a b else a == "System"

/-- Namespaces are ordered by their roots first. -/
theorem ordersTexts_byRoot : OrdersTexts byRoot :=
  ordersTexts_first ordersTexts_byCodePoint (· == "System")

/-- **First segments** of sorted namespaces are sorted, if no character sorts before the dot. -/
theorem byRoot_of_bySpace {a b : String} (ha : ∀ c ∈ a.toList, c = '.' ∨ '.' < c)
    (h : bySpace a b = true) :
    rootSegment a = rootSegment b ∨ byRoot (rootSegment a) (rootSegment b) = true := by
  unfold bySpace isSystemSpace at h
  unfold byRoot
  by_cases hsystem : (rootSegment a == "System") == (rootSegment b == "System")
  · rw [if_pos hsystem] at h ⊢
    have hlt : a < b := of_decide_eq_true h
    exact (rootSegment_of_lt ha hlt).imp_right decide_eq_true
  · -- One of them belongs to the system, and that is the first.
    rw [if_neg hsystem] at h ⊢
    exact .inr h

/-- Nothing comes before the system. -/
theorem byRoot_system (a : String) : byRoot a "System" = false := by
  unfold byRoot
  by_cases ha : a = "System"
  · subst ha
    exact ordersTexts_byCodePoint.irrefl "System"
  · simp [ha]

/-! ### Groups -/

section

variable {spaces : List String}

/-- No block is empty. -/
theorem nil_notMem_groupByRoot (spaces : List String) : [] ∉ groupByRoot spaces := by
  induction spaces with
  | nil => exact List.not_mem_nil
  | cons space rest ih =>
    rw [groupByRoot]
    split
    · next next group groups hgroups =>
      rw [hgroups] at ih
      split <;> simp_all
    · simp_all

/-- Namespaces in one group have the same first segment. -/
theorem rootSegment_eq_of_mem_groupByRoot {group : List String}
    (hgroup : group ∈ groupByRoot spaces) {a b : String} (ha : a ∈ group) (hb : b ∈ group) :
    rootSegment a = rootSegment b := by
  -- It is enough that each of them has the first segment of the first one.
  suffices hhead : ∀ group ∈ groupByRoot spaces, ∃ root, ∀ a ∈ group, rootSegment a = root by
    obtain ⟨root, hroot⟩ := hhead group hgroup
    rw [hroot a ha, hroot b hb]
  clear hgroup ha hb
  induction spaces with
  | nil => nofun
  | cons space rest ih =>
    have halone : ∃ root, ∀ a ∈ [space], rootSegment a = root :=
      ⟨rootSegment space, fun a ha => by rw [List.mem_singleton.mp ha]⟩
    rw [groupByRoot]
    split
    · next next group groups hgroups =>
      rw [hgroups] at ih
      split
      · next hsame =>
        obtain ⟨⟨root, hroot⟩, hgroups⟩ := List.forall_mem_cons.mp ih
        refine List.forall_mem_cons.mpr ⟨⟨root, List.forall_mem_cons.mpr ⟨?_, hroot⟩⟩, hgroups⟩
        exact (beq_iff_eq.mp hsame).trans (hroot next List.mem_cons_self)
      · exact List.forall_mem_cons.mpr ⟨halone, ih⟩
    · exact List.forall_mem_cons.mpr ⟨halone, ih⟩

/-- **Groups.**  If the first segments are sorted, those of one group come before those of all later
groups, so no first segment has two groups. -/
theorem pairwise_groupByRoot {before : String → String → Bool} (hbefore : OrdersTexts before)
    (h : spaces.Pairwise fun a b =>
      rootSegment a = rootSegment b ∨ before (rootSegment a) (rootSegment b) = true) :
    (groupByRoot spaces).Pairwise fun group other =>
      ∀ a ∈ group, ∀ b ∈ other, before (rootSegment a) (rootSegment b) = true := by
  induction spaces with
  | nil => exact .nil
  | cons space rest ih =>
    obtain ⟨hspace, hrest⟩ := List.pairwise_cons.mp h
    have hgroups := ih hrest
    have hflatten := flatten_groupByRoot rest
    rw [groupByRoot]
    split
    · next next group groups heq =>
      rw [heq] at hgroups hflatten
      have hfirst := List.pairwise_cons.mp hgroups
      split
      · next hsame =>
        -- The namespace joins the first group, whose first segment it has.
        refine List.pairwise_cons.mpr ⟨fun other hother a ha b hb => ?_, hfirst.2⟩
        obtain rfl | ha := List.mem_cons.mp ha
        · rw [beq_iff_eq.mp hsame]
          exact hfirst.1 other hother next List.mem_cons_self b hb
        · exact hfirst.1 other hother a ha b hb
      · next hnew =>
        -- It comes before the next one, and what follows that has its first segment or a later one.
        obtain rfl : next :: (group ++ groups.flatten) = rest := by simpa using hflatten
        have hnext : before (rootSegment space) (rootSegment next) = true :=
          (hspace next List.mem_cons_self).resolve_left (mt beq_iff_eq.mpr hnew)
        refine List.pairwise_cons.mpr ⟨fun other hother a ha b hb => ?_, hgroups⟩
        obtain rfl := List.mem_singleton.mp ha
        have hb : b ∈ next :: (group ++ groups.flatten) := List.mem_flatten_of_mem hother hb
        obtain rfl | hb := List.mem_cons.mp hb
        · exact hnext
        · obtain hsame | hless := (List.pairwise_cons.mp hrest).1 b hb
          · rwa [← hsame]
          · exact hbefore.trans hnext hless
    · next hnone =>
      -- There are no other groups, since none is empty.
      cases hgroups : groupByRoot rest with
      | nil => exact List.pairwise_singleton _ _
      | cons group groups =>
        cases group with
        | nil => exact absurd (hgroups ▸ List.mem_cons_self) (nil_notMem_groupByRoot rest)
        | cons next group => exact absurd hgroups (hnone next group groups)

end

/-! ### Both together -/

/-- Namespaces in blocks, one block for each first segment. -/
structure DividesByRoot (spaces : List String) (blocks : List (List String)) : Prop where
  mem_iff : ∀ space, space ∈ blocks.flatten ↔ space ∈ spaces
  /-- No namespace stands in two places. -/
  nodup : blocks.flatten.Nodup
  nonempty : [] ∉ blocks
  sameRoot : ∀ block ∈ blocks, ∀ a ∈ block, ∀ b ∈ block, rootSegment a = rootSegment b
  /-- Two blocks have different first segments. -/
  otherRoots : blocks.Pairwise fun block other =>
    ∀ a ∈ block, ∀ b ∈ other, rootSegment a ≠ rootSegment b
  /-- No block but the first may be that of the system. -/
  systemFirst : ∀ block ∈ blocks.tail, ∀ a ∈ block, rootSegment a ≠ "System"
  ascending : ∀ block ∈ blocks, block.Pairwise (· < ·)

/-- Namespaces with the same first segment are sorted as texts. -/
theorem lt_of_bySpace {a b : String} (hroot : rootSegment a = rootSegment b)
    (h : bySpace a b = true) : a < b := by
  have hsystem : isSystemSpace a == isSystemSpace b := by
    rw [isSystemSpace, isSystemSpace, hroot, beq_self_eq_true]
  rw [bySpace, if_pos hsystem] at h
  exact of_decide_eq_true h

/-- Sorted namespaces are divided by their first segments. -/
theorem dividesByRoot_groupByRoot {spaces : List String}
    (h : ∀ space ∈ spaces, ∀ c ∈ space.toList, c = '.' ∨ '.' < c) :
    DividesByRoot spaces (groupByRoot (sortDistinct bySpace spaces)) := by
  have hflatten := flatten_groupByRoot (sortDistinct bySpace spaces)
  have hsorted := pairwise_sortDistinct ordersTexts_bySpace spaces
  have hroots : (groupByRoot (sortDistinct bySpace spaces)).Pairwise fun block other =>
      ∀ a ∈ block, ∀ b ∈ other, byRoot (rootSegment a) (rootSegment b) = true := by
    refine pairwise_groupByRoot ordersTexts_byRoot (hsorted.imp_of_mem fun {a b} ha _ hab => ?_)
    exact byRoot_of_bySpace (h a (mem_sortDistinct.mp ha)) hab
  have hnonempty := nil_notMem_groupByRoot (sortDistinct bySpace spaces)
  refine ⟨?mem, ?nodup, hnonempty, ?same, ?other, ?system, ?ascending⟩
  case mem =>
    intro space
    rw [hflatten, mem_sortDistinct]
  case nodup =>
    rw [hflatten]
    exact nodup_sortDistinct ordersTexts_bySpace spaces
  case same => exact fun block hblock a ha b hb => rootSegment_eq_of_mem_groupByRoot hblock ha hb
  case other => exact hroots.imp fun hless a ha b hb => ordersTexts_byRoot.ne (hless a ha b hb)
  case system =>
    cases hblocks : groupByRoot (sortDistinct bySpace spaces) with
    | nil => nofun
    | cons first others =>
      rw [hblocks] at hroots hnonempty
      -- The first block has a namespace, and its first segment comes before all others.
      obtain ⟨space, rest, rfl⟩ := List.exists_cons_of_ne_nil
        (show first ≠ [] from fun hnil => hnonempty (hnil ▸ List.mem_cons_self))
      intro block hblock a ha hsystem
      have hless := (List.pairwise_cons.mp hroots).1 block hblock space List.mem_cons_self a ha
      rw [hsystem, byRoot_system] at hless
      exact Bool.false_ne_true hless
  case ascending =>
    intro block hblock
    rw [← hflatten] at hsorted
    refine ((List.pairwise_flatten.mp hsorted).1 block hblock).imp_of_mem fun ha hb hab => ?_
    exact lt_of_bySpace (rootSegment_eq_of_mem_groupByRoot hblock ha hb) hab

/-- **Using directives** are read back in blocks, one for each first segment, if no character of
a namespace sorts before the dot.  They depend on which namespaces there are, and not on their order
or how often they come. -/
theorem usings_read_back {spaces : List String}
    (h : ∀ space ∈ spaces, ∀ c ∈ space.toList, c = '.' ∨ '.' < c) :
    (∃ blocks, usingBlocks? (cSharpUsings spaces) = some blocks ∧ DividesByRoot spaces blocks) ∧
      ∀ spaces' : List String, (∀ space, space ∈ spaces' ↔ space ∈ spaces) →
        cSharpUsings spaces' = cSharpUsings spaces := by
  constructor
  · have hdivides := dividesByRoot_groupByRoot h
    refine ⟨_, usingBlocks?_intercalate hdivides.nonempty fun space hspace hfeed => ?_, hdivides⟩
    -- A line feed sorts before the dot.
    have hdot := h space ((hdivides.mem_iff space).mp hspace) '\n' hfeed
    exact absurd hdot (by decide)
  · intro spaces' hsame
    rw [cSharpUsings, cSharpUsings, sortDistinct_congr ordersTexts_bySpace hsame]

/-- The namespaces of a file, where one first segment begins another. -/
def fileSpaces : List String :=
  ["Rock.Web", "System.Linq", "RockWeb", "Rock", "System"]

/-- These namespaces in blocks. -/
def fileBlocks : List (List String) :=
  [["System", "System.Linq"], ["Rock", "Rock.Web"], ["RockWeb"]]

/-- Namespaces whose first segments begin alike have blocks of their own. -/
theorem usings_read_back_file :
    (∀ space ∈ fileSpaces, ∀ c ∈ space.toList, c = '.' ∨ '.' < c) ∧
      usingBlocks? (cSharpUsings fileSpaces) = some fileBlocks ∧
      DividesByRoot fileSpaces fileBlocks ∧
      cSharpUsings (fileSpaces.reverse ++ fileSpaces) = cSharpUsings fileSpaces := by
  have hspaces : ∀ space ∈ fileSpaces, ∀ c ∈ space.toList, c = '.' ∨ '.' < c := by
    simp [fileSpaces]
  have hblocks : usingBlocks? (cSharpUsings fileSpaces) = some fileBlocks := by decide +kernel
  obtain ⟨⟨blocks, hread, hdivides⟩, hsame⟩ := usings_read_back hspaces
  obtain rfl : blocks = fileBlocks := Option.some.inj (hread.symm.trans hblocks)
  exact ⟨hspaces, hread, hdivides, hsame _ (by simp)⟩

/-- A minus sign sorts before the dot, and what is named with it parts a block. -/
example : usingBlocks? (cSharpUsings ["A.B", "A-B", "A"]) = some [["A"], ["A-B"], ["A.B"]] := by
  decide

end TypeExport
