import TypeExport.ConstantTable
import TypeExport.Proofs.Name.Basic
import TypeExport.Proofs.Name.Constant
import TypeExport.Proofs.TypeScript.Tables

/-!
# What a table of constants keeps

The table of a class is read as TypeScript reads an object: where two entries have the same key, the
later one counts.  Each line is read back as the constant that it was written for, so a value is
lost exactly if two constants with different values have the same member.

* `TypeScript.object?`, `TypeScript.valueOf?` — the entries of an object, and what it holds.
* `TypeScript.each_found_iff` — every entry of an object is found under its key exactly if entries
  with the same key have the same value.
* `constantRead` — what the line of a constant is read as.
* `constants_found_iff` — when every constant of a class is found in its table.
-/

namespace TypeExport

namespace TypeScript

/-! ### Objects -/

/-- The entries of an object. -/
def object? (text : String) : Option (List Entry) := do
  match ← scan? text with
  | .mark '\x7b' :: rest =>
    let (inside, behind) ← cutAt? '\x7d' rest
    if behind = [] then (parts ',' inside).mapM entry? else none
  | _ => none

/-- What an object holds under a name.  A later entry replaces the earlier ones with its key. -/
def valueOf? (entries : List Entry) (name : String) : Option Literal :=
  (entries.reverse.find? (·.key = .name name)).map (·.value)

/-- **Objects** are read back. -/
theorem object?_eq {text : String} {inside : List Token} {entries : List Entry}
    (hscan : scan? text = some (.mark '\x7b' :: (inside ++ [.mark '\x7d'])))
    (hinside : .mark '\x7d' ∉ inside) (hentries : (parts ',' inside).mapM entry? = some entries) :
    object? text = some entries := by
  simp [object?, hscan, cutAt?_append hinside, hentries]

/-- An entry is found unless another one with its key holds something else. -/
theorem valueOf?_eq_some {entries : List Entry} {entry : Entry} {name : String}
    (hentry : entry ∈ entries) (hkey : entry.key = .name name)
    (h : ∀ other ∈ entries, other.key = .name name → other.value = entry.value) :
    valueOf? entries name = some entry.value := by
  unfold valueOf?
  cases hfind : entries.reverse.find? (·.key = .name name) with
  | none =>
    have hnone := List.find?_eq_none.mp hfind entry (List.mem_reverse.mpr hentry)
    simp [hkey] at hnone
  | some found =>
    have hfound : found ∈ entries := List.mem_reverse.mp (List.mem_of_find?_eq_some hfind)
    have hfoundKey : found.key = .name name := by simpa using List.find?_some hfind
    rw [Option.map_some, h found hfound hfoundKey]

/-- Every entry with a name is found under it exactly if entries with the same name hold the
same. -/
theorem each_found_iff {entries : List Entry} :
    (∀ entry ∈ entries, ∀ name, entry.key = .name name →
        valueOf? entries name = some entry.value) ↔
      ∀ first ∈ entries, ∀ second ∈ entries, ∀ name, first.key = .name name →
        second.key = .name name → first.value = second.value := by
  constructor
  · intro h first hfirst second hsecond name hfirstKey hsecondKey
    have hfound := h first hfirst name hfirstKey
    rw [h second hsecond name hsecondKey] at hfound
    exact (Option.some.inj hfound).symm
  · intro h entry hentry name hkey
    exact valueOf?_eq_some hentry hkey fun other hother hotherKey =>
      h other hother entry hentry name hotherKey hkey

end TypeScript

open TypeScript
open Name (IsConstantName condensed constantMember)

/-! ### Lines -/

/-- What the line of a constant is read as. -/
def constantRead (constant : Constant) : Entry where
  key := .name (constantMember constant.name)
  value := .text constant.value

/-- The tokens of the line of a constant, without the comma at its end. -/
def constantTokens (constant : Constant) : List Token :=
  entryTokens [] [.word (constantMember constant.name)] [.text constant.value]

variable {constants : List Constant}

/-- A line consists of the member, a text and a comma, whatever characters the text holds. -/
theorem scan?_constantEntry_append (typeName : String) {constant : Constant}
    (h : IsConstantName constant.name) (rest : String) :
    scan? (constantEntry {} typeName constant ++ rest)
      = (scan? rest).map (constantTokens constant ++ .mark ',' :: ·) := by
  -- Blanks give no token, and the marks part the member from its text.
  have hindent : Scans "    " [] := by decide
  have hcolon : Separates ": " [.mark ':'] := by decide
  have hcomma : Scans ",\n" [.mark ','] := by decide
  have hmember := scan?_identifier h.isIdentifier_constantMember
  unfold constantEntry
  rw [show typeScriptComment (({} : Documentation).memberSummary? typeName constant.name) 4 = ""
      from rfl, String.empty_append]
  simp only [String.append_assoc]
  rw [scan?_append_of_scans hindent, hcolon.scan?_append hmember,
    scan?_append_of_scans (scans_doubleQuoted constant.value), scan?_append_of_scans hcomma]
  simp [constantTokens, entryTokens, Function.comp_def]

/-- The lines of a table are read one after the other. -/
theorem scan?_constantEntries_append (typeName : String)
    (h : ∀ constant ∈ constants, IsConstantName constant.name) (rest : String) :
    scan? (String.join (constants.map (constantEntry {} typeName)) ++ rest)
      = (scan? rest).map ((constants.map constantTokens).flatMap (· ++ [.mark ',']) ++ ·) := by
  induction constants with
  | nil =>
    rw [List.map_nil, show String.join [] = "" from rfl, String.empty_append]
    simp
  | cons constant constants ih =>
    obtain ⟨hconstant, hconstants⟩ := List.forall_mem_cons.mp h
    rw [List.map_cons, String.join_cons, String.append_assoc,
      scan?_constantEntry_append typeName hconstant, ih hconstants, Option.map_map]
    simp [Function.comp_def]

/-- The entry of a constant has no marks but its colon. -/
theorem mark_notMem_constantTokens {mark : Char} (hmark : mark ≠ ':') (constant : Constant) :
    .mark mark ∉ constantTokens constant := by
  simp [constantTokens, entryTokens, hmark]

/-- The entry of a constant is read back. -/
theorem entry?_constantTokens {constant : Constant} (h : IsConstantName constant.name) :
    entry? (constantTokens constant) = some (constantRead constant) :=
  entry?_entryTokens (key?_identifier h.isIdentifier_constantMember) rfl (by simp)

/-- **Reading back.**  The lines of a table between its braces are read as its constants. -/
theorem object?_constantEntries (typeName : String)
    (h : ∀ constant ∈ constants, IsConstantName constant.name) :
    object? ("\x7b\n" ++ (String.join (constants.map (constantEntry {} typeName)) ++ "\x7d"))
      = some (constants.map constantRead) := by
  have hopen : Scans "\x7b\n" [.mark '\x7b'] := by decide
  have hclose : scan? "\x7d" = some [.mark '\x7d'] := by decide
  -- The only mark in a line is the colon: commas and braces of a value are inside its quotes.
  have hparts : ∀ line ∈ constants.map constantTokens, .mark ',' ∉ line := by
    intro line hline
    obtain ⟨constant, -, rfl⟩ := List.mem_map.mp hline
    exact mark_notMem_constantTokens (by decide) constant
  let inside := (constants.map constantTokens).flatMap (· ++ [.mark ','])
  have hinside : .mark '\x7d' ∉ inside := by
    intro hbrace
    obtain ⟨line, hline, hbrace⟩ := List.mem_flatMap.mp hbrace
    obtain ⟨constant, -, rfl⟩ := List.mem_map.mp hline
    obtain hbrace | hbrace := List.mem_append.mp hbrace
    · exact mark_notMem_constantTokens (by decide) constant hbrace
    · simp at hbrace
  refine object?_eq ?_ hinside ?_
  · rw [scan?_append_of_scans hopen, scan?_constantEntries_append typeName h, hclose]
    rfl
  · rw [parts_ended hparts, Option.mapM_eq_some_iff, List.forall₂_map_left_iff,
      List.forall₂_map_right_iff, List.forall₂_same]
    exact fun constant hconstant => entry?_constantTokens (h constant hconstant)

/-- Every constant is found under its member exactly if constants with the same member have the same
value.  It does not matter in which order they stand. -/
theorem each_constant_found_iff {ordered : List Constant}
    (hordered : ∀ constant, constant ∈ ordered ↔ constant ∈ constants) :
    (∀ constant ∈ constants, valueOf? (ordered.map constantRead) (constantMember constant.name)
        = some (.text constant.value)) ↔
      ∀ first ∈ constants, ∀ second ∈ constants,
        constantMember first.name = constantMember second.name → first.value = second.value := by
  have hfound := @each_found_iff (ordered.map constantRead)
  simp only [List.forall_mem_map, hordered] at hfound
  constructor
  · intro h first hfirst second hsecond hmember
    -- Both are looked up under one name, and one value is found there.
    have hsame := h first hfirst
    rw [hmember, h second hsecond] at hsame
    exact (Literal.text.inj (Option.some.inj hsame)).symm
  · intro h constant hconstant
    refine hfound.mpr (fun first hfirst second hsecond name hkey hother => ?_) constant hconstant
      _ rfl
    have hmember : constantMember first.name = constantMember second.name :=
      (Key.name.inj hkey).trans (Key.name.inj hother).symm
    exact congrArg Literal.text (h first hfirst second hsecond hmember)

/-! ### Tables -/

/-- **No value is lost** from the table of a class whose constants are named by capitals, digits and
underscores, as long as constants have the same value if their names differ in underscores alone
that stand between words, in front of a digit or at the end.  Otherwise a value is lost. -/
theorem constants_found_iff (graph : TypeGraph) (type : TypeRef)
    (hnames : ∀ constant ∈ graph.constants type, IsConstantName constant.name) :
    ∃ literal entries,
      constantTable graph {} type
        = "export const " ++ (graph.facts type).name ++ " = " ++ literal ++ ";\n" ∧
      object? literal = some entries ∧
      ((∀ constant ∈ graph.constants type,
          valueOf? entries (constantMember constant.name) = some (.text constant.value)) ↔
        ∀ first ∈ graph.constants type, ∀ second ∈ graph.constants type,
          condensed first.name = condensed second.name → first.value = second.value) := by
  let ordered := Name.sortByName (fun constant : Constant => constant.name) (graph.constants type)
  let typeName := (graph.facts type).fullName
  have hordered (constant : Constant) : constant ∈ ordered ↔ constant ∈ graph.constants type :=
    Name.mem_sortByName _ _ _
  have hread := object?_constantEntries typeName fun constant hconstant =>
    hnames constant ((hordered constant).mp hconstant)
  refine ⟨_, _, ?_, hread, ?_⟩
  · have hopen : " = \x7b\n" = " = " ++ "\x7b\n" := by decide
    have hclose : "\x7d;\n" = "\x7d" ++ ";\n" := by decide
    have hcomment : typeScriptComment (({} : Documentation).typeSummary? typeName) = "" := rfl
    simp only [constantTable]
    rw [hcomment, String.empty_append, hopen, hclose]
    simp only [String.append_assoc, ordered, typeName]
  -- Members collide exactly if the condensed names do.
  · rw [each_constant_found_iff hordered]
    refine forall₂_congr fun first hfirst => forall₂_congr fun second hsecond => ?_
    rw [(hnames first hfirst).constantMember_eq_iff (hnames second hsecond)]

/-- A class with constants. -/
def areas (constants : List Constant) : TypeGraph where
  entries := [{ facts := { name := "Area", space? := some "Shop" }, constants }]

/-- Constants whose names begin alike are found. -/
theorem constants_found_areas :
    let graph := areas [⟨"LAND_AREA", "a", []⟩, ⟨"AREA_1", "b", []⟩, ⟨"AREA", "c", []⟩]
    (∀ constant ∈ graph.constants (.declared 0), IsConstantName constant.name) ∧
    ∃ literal entries,
      constantTable graph {} (.declared 0) = "export const " ++ "Area" ++ " = " ++ literal ++ ";\n" ∧
      object? literal = some entries ∧
      ∀ constant ∈ graph.constants (.declared 0),
        valueOf? entries (constantMember constant.name) = some (.text constant.value) := by
  intro graph
  have hnames : ∀ constant ∈ graph.constants (.declared 0), IsConstantName constant.name := by
    decide
  obtain ⟨literal, entries, htext, hobject, hfound⟩ := constants_found_iff graph _ hnames
  refine ⟨hnames, literal, entries, htext, hobject, hfound.mpr ?_⟩
  decide

/-- Constants with different names may have one member, and then only one of their values can be
found. -/
theorem constant_lost : ¬ ∀ (graph : TypeGraph) (type : TypeRef),
    ((graph.constants type).map (·.name)).Nodup →
    (∀ constant ∈ graph.constants type, IsConstantName constant.name) →
    ∃ literal entries,
      constantTable graph {} type
        = "export const " ++ (graph.facts type).name ++ " = " ++ literal ++ ";\n" ∧
      object? literal = some entries ∧
      ∀ constant ∈ graph.constants type,
        valueOf? entries (constantMember constant.name) = some (.text constant.value) := by
  intro h
  let graph := areas [⟨"AREA1", "a", []⟩, ⟨"AREA_1", "b", []⟩]
  obtain ⟨literal, entries, -, -, hfound⟩ := h graph (.declared 0) (by decide) (by decide)
  have hfirst := hfound ⟨"AREA1", "a", []⟩ (List.mem_cons_self)
  have hsecond := hfound ⟨"AREA_1", "b", []⟩ (List.mem_cons_of_mem _ List.mem_cons_self)
  have hmember : constantMember "AREA1" = constantMember "AREA_1" := by decide
  rw [hmember, hsecond] at hfirst
  exact absurd hfirst (by decide)

end TypeExport
