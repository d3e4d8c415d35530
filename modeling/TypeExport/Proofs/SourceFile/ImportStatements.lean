import TypeExport.Proofs.Declaration.Imports
import TypeExport.Proofs.Outcome
import TypeExport.Proofs.SourceFile.Usings
import TypeExport.Proofs.Text.Searching
import Mathlib.Data.List.Nodup

/-!
# Import statements

Imports are collected path by path and written as one statement for each path.  A reader takes the
names out of each statement and gets the imports back, sorted and each one once.  Which statements
there are depends on the set of imports alone, so nothing is lost or repeated if the imports were
merged before.

* `ImportStatement`, `importStatements?` — the statements that are read from a text.
* `importStatements?_join` — statements are read back.
* `statementsOf`, `typeScriptImports_eq` — the statements that are written for some imports.
* `ListsImports` — statements that list each import once, in order.
* `import_statements_read_back` — import statements list the imports that they were written for.
-/

namespace TypeExport

open Text

/-! ### Reading -/

/-- The names that a statement imports from one path. -/
structure ImportStatement where
  path : String
  names : List String
deriving DecidableEq, Repr

namespace ImportStatement

/-- The imports of a statement, one for each of its names. -/
def imports (statement : ImportStatement) : List Import :=
  statement.names.map fun name => ⟨statement.path, name⟩

/-- A statement as it is written. -/
def text (statement : ImportStatement) : String :=
  importStatement statement.path statement.names

/-- Its line. -/
def line (statement : ImportStatement) : List Char :=
  ("import \x7b " ++ ", ".intercalate statement.names ++ " \x7d from \"" ++ statement.path
    ++ "\";").toList

end ImportStatement

/-- The names between the braces of a statement, each with a space in front of it and commas
between them. -/
def listedNames? (text : List Char) : Option (List String) :=
  (text.splitOn ',').mapM fun item => (behind? [' '] item).map .ofList

/-- The statement on a line: names in braces, a path in quotes and a semicolon. -/
def importStatement? (line : List Char) : Option ImportStatement := do
  let rest ← behind? "import \x7b".toList line
  let (inside, rest) ← around? " \x7d from \"".toList rest
  let (path, rest) ← around? ['"'] rest
  let names ← listedNames? inside
  if rest = [';'] then some ⟨.ofList path, names⟩ else none

/-- The statements of a text, one on each line. -/
def importStatements? (text : String) : Option (List ImportStatement) :=
  (endedLines? text.toList).bind (·.mapM importStatement?)

/-! ### Statements are read back -/

/-- The marks of import statements, which no path and no name contains. -/
def statementMarks : List Char := ['"', ',', '\x7b', '\x7d', ' ', '\n']

/-- The text has no mark of import statements. -/
def HasNoMarks (text : String) : Prop := ∀ c ∈ text.toList, c ∉ statementMarks

instance (text : String) : Decidable (HasNoMarks text) :=
  List.decidableBAll (fun c => c ∉ statementMarks) text.toList

/-- A text without the marks of a statement has none of them. -/
theorem HasNoMarks.notMem {text : String} (h : HasNoMarks text) {mark : Char}
    (hmark : mark ∈ statementMarks) : mark ∉ text.toList :=
  fun hmem => h mark hmem hmark

/-- The names of a statement, with a space in front of each. -/
def listed (names : List String) : List Char :=
  [','].intercalate (names.map (' ' :: ·.toList))

/-- A comma and a space between names put a space in front of all but the first. -/
theorem cons_intercalate {items : List (List Char)} (h : items ≠ []) :
    ' ' :: [',', ' '].intercalate items = [','].intercalate (items.map (' ' :: ·)) := by
  induction items with
  | nil => exact absurd rfl h
  | cons item items ih =>
    cases items with
    | nil => simp
    | cons next items =>
      have hrest := ih (List.cons_ne_nil next items)
      simp only [List.map_cons, List.intercalate_cons_cons, List.cons_append, List.append_assoc,
        List.nil_append] at hrest ⊢
      rw [hrest]

/-- A list of names without commas is read back. -/
theorem listedNames?_listed {names : List String} (hne : names ≠ [])
    (h : ∀ name ∈ names, ',' ∉ name.toList) : listedNames? (listed names) = some names := by
  have hsplit : (listed names).splitOn ',' = names.map (' ' :: ·.toList) := by
    refine List.splitOn_intercalate ',' (fun item hitem => ?_) (by simpa using hne)
    obtain ⟨name, hname, rfl⟩ := List.mem_map.mp hitem
    simpa using h name hname
  rw [listedNames?, hsplit]
  refine Option.mapM_map_eq_some fun name _ => ?_
  have hspace := behind?_append [' '] name.toList
  rw [List.singleton_append] at hspace
  rw [hspace, Option.map_some, String.ofList_toList]

namespace ImportStatement

/-- A statement that can be read back: it has names, and no mark in its path or its names. -/
structure IsReadable (statement : ImportStatement) : Prop where
  names_ne_nil : statement.names ≠ []
  path : HasNoMarks statement.path
  names : ∀ name ∈ statement.names, HasNoMarks name

variable {statement : ImportStatement}

/-- A statement imports its names from its path. -/
theorem mem_imports {item : Import} :
    item ∈ statement.imports ↔ item.path = statement.path ∧ item.name ∈ statement.names := by
  obtain ⟨path, name⟩ := item
  simp [imports, and_comm, eq_comm]

/-- A statement is its line and the end of the line. -/
theorem toList_text (statement : ImportStatement) :
    statement.text.toList = statement.line ++ ['\n'] := by
  have hend : "\";\n" = "\";" ++ "\n" := by decide
  rw [text, importStatement, line, hend, ← String.append_assoc, String.toList_append]
  rfl

/-- The line of a statement puts its names between braces and its path between quotes. -/
theorem line_eq (h : statement.names ≠ []) :
    statement.line = "import \x7b".toList
      ++ (listed statement.names
        ++ (" \x7d from \"".toList ++ (statement.path.toList ++ ['"', ';']))) := by
  have hopen : "import \x7b ".toList = "import \x7b".toList ++ [' '] := by decide
  -- The space behind the brace is the one in front of the first name.
  have hnames : listed statement.names
      = ' ' :: [',', ' '].intercalate (statement.names.map String.toList) := by
    rw [cons_intercalate (by simpa using h), List.map_map]
    rfl
  have hcomma : ", ".toList = [',', ' '] := by decide
  have hclose : "\";".toList = ['"', ';'] := by decide
  rw [hnames, line]
  simp only [String.toList_append, String.toList_intercalate, hopen, hcomma, hclose,
    List.append_assoc, List.cons_append, List.nil_append]

/-- A list of names has no marks but commas and blanks if the names have none. -/
theorem notMem_listed {mark : Char} (hmark : mark ≠ ',') (hspace : mark ≠ ' ')
    {names : List String} (h : ∀ name ∈ names, mark ∉ name.toList) : mark ∉ listed names := by
  intro hlisted
  obtain hcomma | ⟨item, hitem, hin⟩ := mem_of_mem_intercalate hlisted
  · exact hmark (List.mem_singleton.mp hcomma)
  · obtain ⟨name, hname, rfl⟩ := List.mem_map.mp hitem
    obtain hfirst | hrest := List.mem_cons.mp hin
    · exact hspace hfirst
    · exact h name hname hrest

namespace IsReadable

variable (h : statement.IsReadable)
include h

/-- The path of a readable statement has no mark. -/
theorem notMem_path {mark : Char} (hmark : mark ∈ statementMarks) :
    mark ∉ statement.path.toList :=
  h.path.notMem hmark

/-- Between the braces stand names, commas and spaces. -/
theorem notMem_listed {mark : Char} (hmark : mark ∈ statementMarks) (hcomma : mark ≠ ',')
    (hspace : mark ≠ ' ') : mark ∉ listed statement.names :=
  ImportStatement.notMem_listed hcomma hspace fun name hname => (h.names name hname).notMem hmark

/-- **Statements** are read back: the first brace behind the names and the first quote behind the
path are those that the statement is written with. -/
theorem importStatement?_line : importStatement? statement.line = some statement := by
  -- No name holds a brace, and no path a quote, so the first ones are those of the statement.
  have hnames : around? " \x7d from \"".toList (listed statement.names
        ++ (" \x7d from \"".toList ++ (statement.path.toList ++ ['"', ';'])))
      = some (listed statement.names, statement.path.toList ++ ['"', ';']) := by
    have hpattern : " \x7d from \"".toList = [' '] ++ '\x7d' :: " from \"".toList := by decide
    rw [hpattern]
    exact around?_append [' '] _ (by decide)
      (h.notMem_listed (by decide) (by decide) (by decide)) _
  have hpath : around? ['"'] (statement.path.toList ++ ['"', ';'])
      = some (statement.path.toList, [';']) :=
    around?_append [] [] (by decide) (h.notMem_path (by decide)) [';']
  have hlisted : listedNames? (listed statement.names) = some statement.names :=
    listedNames?_listed h.names_ne_nil fun name hname => (h.names name hname).notMem (by decide)
  rw [line_eq h.names_ne_nil, importStatement?, behind?_append]
  simp only [Option.bind_eq_bind, Option.bind_some, hnames, hpath, hlisted, if_true,
    String.ofList_toList]

/-- The line of a readable statement is one line. -/
theorem lineFeed_notMem_line : '\n' ∉ statement.line := by
  have hpath : '\n' ∉ statement.path.toList := h.notMem_path (by decide)
  have hlisted : '\n' ∉ listed statement.names :=
    h.notMem_listed (by decide) (by decide) (by decide)
  have hopen : '\n' ∉ "import \x7b".toList := by decide
  have hclose : '\n' ∉ " \x7d from \"".toList := by decide
  have hend : '\n' ∉ ['"', ';'] := by decide
  rw [line_eq h.names_ne_nil]
  simp only [List.mem_append, not_or]
  exact ⟨hopen, hlisted, hclose, hpath, hend⟩

end IsReadable

end ImportStatement

/-- **Texts** of statements are read back. -/
theorem importStatements?_join {statements : List ImportStatement}
    (h : ∀ statement ∈ statements, statement.IsReadable) :
    importStatements? (String.join (statements.map (·.text))) = some statements := by
  have htext : (String.join (statements.map (·.text))).toList
      = (statements.map (·.line)).flatMap (· ++ ['\n']) := by
    rw [String.toList_join, List.flatMap_map, List.flatMap_map]
    exact List.flatMap_congr fun statement _ => statement.toList_text
  have hfeed : ∀ line ∈ statements.map (·.line), '\n' ∉ line := by
    rw [List.forall_mem_map]
    exact fun statement hstatement => (h statement hstatement).lineFeed_notMem_line
  rw [importStatements?, htext, endedLines?_flatMap hfeed, Option.bind_some]
  exact Option.mapM_map_eq_some fun statement hstatement =>
    (h statement hstatement).importStatement?_line

/-! ### What is written -/

section

variable {imports : List Import}

/-- The names that are imported from a path. -/
def namesFrom (imports : List Import) (path : String) : List String :=
  sortDistinct byCodePoint ((imports.filter (·.path == path)).map (·.name))

/-- The statements of some imports, one for each path. -/
def statementsOf (imports : List Import) : List ImportStatement :=
  (sortDistinct byModule (imports.map (·.path))).map fun path => ⟨path, namesFrom imports path⟩

/-- The import text is that of the statements, one behind the other. -/
theorem typeScriptImports_eq (imports : List Import) :
    typeScriptImports imports = String.join ((statementsOf imports).map (·.text)) := by
  rw [statementsOf, List.map_map]
  rfl

/-- The names from a path are those that are imported from it. -/
theorem mem_namesFrom {path name : String} :
    name ∈ namesFrom imports path ↔ ⟨path, name⟩ ∈ imports := by
  rw [namesFrom, mem_sortDistinct, List.mem_map]
  constructor
  · rintro ⟨item, hitem, rfl⟩
    obtain ⟨hitem, hpath⟩ := List.mem_filter.mp hitem
    rwa [← beq_iff_eq.mp hpath]
  · intro hitem
    exact ⟨⟨path, name⟩, List.mem_filter.mpr ⟨hitem, beq_self_eq_true path⟩, rfl⟩

/-- Paths are sorted with relative ones behind all others. -/
theorem ordersTexts_byModule : OrdersTexts byModule := by
  have hfirst := ordersTexts_first ordersTexts_byCodePoint fun path => !isRelativePath path
  have hsame : byModule = fun a b =>
      if (!isRelativePath a) == (!isRelativePath b) then byCodePoint a b
      else !isRelativePath a := by
    funext a b
    unfold byModule
    cases isRelativePath a <;> cases isRelativePath b <;> rfl
  rwa [hsame]

/-- A statement has the path of some import, so it has names. -/
theorem namesFrom_ne_nil {path : String} (h : path ∈ imports.map (·.path)) :
    namesFrom imports path ≠ [] := by
  obtain ⟨item, hitem, rfl⟩ := List.mem_map.mp h
  exact List.ne_nil_of_mem (mem_namesFrom.mpr hitem)

/-- The statements of imports without marks are readable. -/
theorem isReadable_of_mem_statementsOf
    (h : ∀ item ∈ imports, HasNoMarks item.path ∧ HasNoMarks item.name)
    {statement : ImportStatement} (hstatement : statement ∈ statementsOf imports) :
    statement.IsReadable := by
  obtain ⟨path, hpath, rfl⟩ := List.mem_map.mp hstatement
  have hpath := mem_sortDistinct.mp hpath
  refine ⟨namesFrom_ne_nil hpath, ?path, fun name hname => ?name⟩
  case path =>
    obtain ⟨item, hitem, rfl⟩ := List.mem_map.mp hpath
    exact (h item hitem).1
  case name => exact (h _ (mem_namesFrom.mp hname)).2

/-- Statements depend on which imports there are, and not on their order or how often they come. -/
theorem statementsOf_congr {imports' : List Import} (h : ∀ item, item ∈ imports' ↔ item ∈ imports) :
    statementsOf imports' = statementsOf imports := by
  have hpaths : sortDistinct byModule (imports'.map (·.path))
      = sortDistinct byModule (imports.map (·.path)) :=
    sortDistinct_congr ordersTexts_byModule fun path => by simp only [List.mem_map, h]
  have hnames : namesFrom imports' = namesFrom imports := by
    funext path
    exact sortDistinct_congr ordersTexts_byCodePoint fun name => by
      simp only [List.mem_map, List.mem_filter, h]
  rw [statementsOf, statementsOf, hpaths, hnames]

end

/-! ### Both together -/

/-- A path that is relative to the importing file starts with a dot. -/
def StartsWithDot (path : String) : Prop := path.toList.head? = some '.'

/-- A path is relative exactly if it begins with a dot. -/
theorem isRelativePath_iff {path : String} : isRelativePath path = true ↔ StartsWithDot path := by
  unfold isRelativePath StartsWithDot
  cases path.toList with
  | nil => simp
  | cons c rest =>
    simp only [List.isPrefixOf, Bool.and_true, beq_iff_eq, List.head?_cons, Option.some.injEq]
    exact eq_comm

/-- Statements that list each import once, in order. -/
structure ListsImports (imports : List Import) (statements : List ImportStatement) : Prop where
  mem_iff : ∀ item, item ∈ statements.flatMap (·.imports) ↔ item ∈ imports
  /-- No import is listed twice. -/
  nodup : (statements.flatMap (·.imports)).Nodup
  /-- No path has two statements. -/
  nodup_paths : (statements.map (·.path)).Nodup
  ascending_names : ∀ statement ∈ statements, statement.names.Pairwise (· < ·)
  /-- Nothing but relative paths comes behind a relative path. -/
  relativeLast : statements.Pairwise fun a b => StartsWithDot a.path → StartsWithDot b.path
  ascending_paths : statements.Pairwise fun a b =>
    (StartsWithDot a.path ↔ StartsWithDot b.path) → a.path < b.path

/-- The statements of some imports list just these. -/
theorem mem_flatMap_statementsOf {imports : List Import} {item : Import} :
    item ∈ (statementsOf imports).flatMap (·.imports) ↔ item ∈ imports := by
  rw [List.mem_flatMap]
  constructor
  · rintro ⟨statement, hstatement, hitem⟩
    obtain ⟨path, -, rfl⟩ := List.mem_map.mp hstatement
    obtain ⟨hpath, hname⟩ := ImportStatement.mem_imports.mp hitem
    have hpath : item.path = path := hpath
    rw [← hpath] at hname
    exact mem_namesFrom.mp hname
  · intro hitem
    -- Each path of an import has a statement, which lists all names from there.
    have hpath : item.path ∈ sortDistinct byModule (imports.map (·.path)) :=
      mem_sortDistinct.mpr (List.mem_map_of_mem hitem)
    exact ⟨_, List.mem_map_of_mem hpath,
      ImportStatement.mem_imports.mpr ⟨rfl, mem_namesFrom.mpr hitem⟩⟩

/-- Imports of one statement differ in their names, and those of two in their paths. -/
theorem nodup_flatMap_imports {statements : List ImportStatement}
    (hnames : ∀ statement ∈ statements, statement.names.Nodup)
    (hpaths : (statements.map (·.path)).Nodup) : (statements.flatMap (·.imports)).Nodup := by
  rw [List.nodup_flatMap]
  constructor
  · intro statement hstatement
    exact (hnames statement hstatement).map fun _ _ hsame => (Import.mk.inj hsame).2
  · refine (List.pairwise_map.mp hpaths).imp fun hne item hfirst hsecond => hne ?_
    have hpath := (ImportStatement.mem_imports.mp hfirst).1
    exact hpath.symm.trans (ImportStatement.mem_imports.mp hsecond).1

/-- The names of a statement are sorted. -/
theorem pairwise_names_of_mem_statementsOf {imports : List Import} {statement : ImportStatement}
    (h : statement ∈ statementsOf imports) :
    statement.names.Pairwise fun a b => byCodePoint a b = true := by
  obtain ⟨path, -, rfl⟩ := List.mem_map.mp h
  exact pairwise_sortDistinct ordersTexts_byCodePoint _

/-- The statements that are written list the imports. -/
theorem listsImports_statementsOf (imports : List Import) :
    ListsImports imports (statementsOf imports) := by
  have hpaths := pairwise_sortDistinct ordersTexts_byModule (imports.map (·.path))
  have hordered : (statementsOf imports).Pairwise fun a b => byModule a.path b.path = true :=
    List.pairwise_map.mpr hpaths
  have hnodup : ((statementsOf imports).map (·.path)).Nodup :=
    List.pairwise_map.mpr (hordered.imp ordersTexts_byModule.ne)
  refine ⟨fun _ => mem_flatMap_statementsOf, ?nodup, hnodup, fun statement hstatement => ?names,
    ?relative, ?paths⟩
  case nodup =>
    refine nodup_flatMap_imports (fun statement hstatement => ?_) hnodup
    exact (pairwise_names_of_mem_statementsOf hstatement).imp ordersTexts_byCodePoint.ne
  case names => exact (pairwise_names_of_mem_statementsOf hstatement).imp of_decide_eq_true
  -- In this order, a path that is relative comes after all that are not.
  case relative =>
    refine hordered.imp fun {a b} hbefore hrelative => ?_
    rw [← isRelativePath_iff] at hrelative ⊢
    unfold byModule at hbefore
    cases hb : isRelativePath b.path <;> simp_all
  case paths =>
    refine hordered.imp fun {a b} hbefore hsame => ?_
    rw [← isRelativePath_iff, ← isRelativePath_iff, ← Bool.eq_iff_iff] at hsame
    rw [byModule, hsame, beq_self_eq_true, if_pos rfl] at hbefore
    exact of_decide_eq_true hbefore

/-- **Import statements** list the imports that they were written for, if no path and no name
contains a mark of the statements.  They depend on which imports there are, and not on their order
or how often they come; so merging lists of imports first changes nothing. -/
theorem import_statements_read_back {imports : List Import}
    (h : ∀ item ∈ imports, HasNoMarks item.path ∧ HasNoMarks item.name) :
    (∃ statements, importStatements? (typeScriptImports imports) = some statements ∧
        ListsImports imports statements) ∧
      (∀ imports' : List Import, (∀ item, item ∈ imports' ↔ item ∈ imports) →
        typeScriptImports imports' = typeScriptImports imports) ∧
      ∀ groups : List (List Import),
        typeScriptImports (Import.merge groups) = typeScriptImports groups.flatten := by
  refine ⟨⟨statementsOf imports, ?_, listsImports_statementsOf imports⟩,
    fun imports' hsame => ?_, fun groups => ?_⟩
  · rw [typeScriptImports_eq]
    exact importStatements?_join fun _ => isReadable_of_mem_statementsOf h
  · rw [typeScriptImports_eq, typeScriptImports_eq, statementsOf_congr hsame]
  · have hmerged (item : Import) : item ∈ Import.merge groups ↔ item ∈ groups.flatten := by
      simp [Import.mem_merge]
    rw [typeScriptImports_eq, typeScriptImports_eq, statementsOf_congr hmerged]

/-- Imports from a package and from a file beside the importing one. -/
def vueImports : List Import :=
  [⟨"./helpers", "format"⟩, ⟨"vue", "ref"⟩, ⟨"vue", "computed"⟩, ⟨"vue", "ref"⟩]

/-- A statement with two names from a package and one with a relative path. -/
def vueStatements : List ImportStatement :=
  [⟨"vue", ["computed", "ref"]⟩, ⟨"./helpers", ["format"]⟩]

/-- A name that is imported twice is listed once, and the file beside comes last. -/
theorem import_statements_read_back_vue :
    (∀ item ∈ vueImports, HasNoMarks item.path ∧ HasNoMarks item.name) ∧
      importStatements? (typeScriptImports vueImports) = some vueStatements ∧
      ListsImports vueImports vueStatements ∧
      typeScriptImports (Import.merge [vueImports.reverse, vueImports])
        = typeScriptImports vueImports := by
  have hplain : ∀ item ∈ vueImports, HasNoMarks item.path ∧ HasNoMarks item.name := by decide
  have hstatements : importStatements? (typeScriptImports vueImports) = some vueStatements := by
    decide +kernel
  obtain ⟨⟨statements, hread, hlists⟩, hsame, hmerge⟩ := import_statements_read_back hplain
  obtain rfl : statements = vueStatements := Option.some.inj (hread.symm.trans hstatements)
  refine ⟨hplain, hread, hlists, (hmerge _).trans (hsame _ ?_)⟩
  simp

end TypeExport
