import TypeExport.Command.Request
import TypeExport.Files.Tree
import TypeExport.SourceFile
import TypeExport.Workspace

/-!
# Carrying out requests

A request reads its files, generates code, and writes it to a file or to the standard output.
When anything fails before the file is opened, no text is written.

* `Failure` — why a request failed.
* `Request.load`, `Request.loadDocumentation` — the workspace of a request.
* `Request.generate` — the text of the generated file.
* `run` — carry out a command line.
-/

namespace TypeExport.Command

/-- Why a request failed. -/
inductive Failure where
  | workspace (error : WorkspaceError)
  /-- Tables of enumerations were asked for types that are none. -/
  | notEnums (fullNames : List String)
  /-- Tables of constants were asked for types without any. -/
  | noConstants (fullNames : List String)
  /-- The output could not be written. -/
  | cannotWrite (output : Path) (problem : FileProblem) (path : Path)
  /-- The generated text has surrogates, so it can neither be shown nor stored. -/
  | notEncodable
deriving DecidableEq, Repr

namespace Failure

/-- The failure is told as an error; others end the program where nobody expects it. -/
def isExpected : Failure → Bool
  | workspace (.settings (.noValue _)) => false
  | workspace (.catalog (.noValue _)) => false
  | notEncodable => false
  | _ => true

/-- The text shown for the failure. -/
def message : Failure → String
  | workspace error => error.message
  | notEnums fullNames => "not an enumeration: " ++ ", ".intercalate fullNames
  | noConstants fullNames => "no string constants declared: " ++ ", ".intercalate fullNames
  | cannotWrite output problem path =>
    "cannot write '" ++ output.text ++ "': " ++ problem.message path.text
  | notEncodable => ""

/-- The line that tells the failure. -/
def line (failure : Failure) : String :=
  if failure.isExpected then "Error: " ++ failure.message ++ "\n" else ""

end Failure

/-- A computation of a command. -/
abbrev Run := Report Failure

namespace Run

/-- A computation on a workspace. -/
def ofWorkspace {α : Type} (outcome : Except WorkspaceError α) : Run α :=
  .ofExcept (outcome.mapError .workspace)

end Run

/-- The name of the file with the settings of a folder. -/
def settingsFileName : String := ".declgen.yaml"

/-! ### Reading files -/

/-- The settings of a file that is shown as `label`. -/
def loadSettings (files : FileTree) (path : Path) (label : String) :
    Except SettingsError Settings :=
  match files.read path with
  | .ok text => Settings.read label text files.standIn
  | .error .missing => .error (.fileNotFound label)
  | .error problem => .error (.unreadable (problem.message label))

/-- The catalog of a file. -/
def loadCatalog (files : FileTree) (settings : Settings) (path : Path) :
    Except CatalogError Catalog :=
  match files.read path with
  | .ok text => Catalog.read settings path.text text files.standIn
  | .error .missing => .error (.fileNotFound path.text)
  | .error problem => .error (.unreadable (problem.message path.text))

/-- Documentation with that of a file added. -/
def loadDocumentation (files : FileTree) (documentation : Documentation) (path : Path) :
    Except DocumentationError Documentation :=
  match files.read path with
  | .ok text => documentation.read path.text text
  | .error .missing => .error (.fileNotFound path.text)
  | .error problem => .error (.unreadable (problem.message path.text))

namespace Request

/-- The settings of a request: those of the file it names, or else those of the working folder,
which is shown as `home`. -/
def settings (request : Request) (home : String) (files : FileTree) : Run Settings := do
  let load (path : Path) (label : String) : Run Settings :=
    .ofWorkspace ((loadSettings files path label).mapError .settings)
  match request.config? with
  | some path => load path path.text
  | none =>
    if files.isTaken [settingsFileName] then
      let label := (Path.within (.ofText home) settingsFileName).text
      Report.say (.usingSettings label)
      load (.ofText settingsFileName) label
    else return {}

/-- The settings and the catalog of a request. -/
def load (request : Request) (home : String) (files : FileTree) (catalog : Path) :
    Run Workspace := do
  let settings ← request.settings home files
  let catalog ← Run.ofWorkspace ((loadCatalog files settings catalog).mapError .catalog)
  return { settings, catalog }

/-- A workspace with the documentation that a request names. -/
def withDocumentation (request : Request) (files : FileTree) (workspace : Workspace) :
    Run Workspace := do
  let documentation ← request.docs.foldlM
    (fun documentation path => do
      Report.say (.readingDocumentation path.text)
      Run.ofWorkspace ((loadDocumentation files documentation path).mapError .documentation))
    workspace.documentation
  return { workspace with documentation }

/-- A request fails on unsupported types if it or the settings say so. -/
def isStrict (request : Request) (settings : Settings) : Bool :=
  request.strict || settings.strict

/-! ### Generating -/

/-- The full names of the types whose entries have a property. -/
def namesWhere (workspace : Workspace) (types : List TypeRef) (holds : TypeEntry → Bool) :
    List String :=
  (types.filter fun type => (workspace.graph.entry? type).elim false holds).map fun type =>
    (workspace.graph.facts type).fullName

/-- The text of the file that a request asks for. -/
def generate (request : Request) (home : String) (files : FileTree) : Run String := do
  match request.task with
  | .viewModels catalog names =>
    let workspace ← request.load home files catalog
    let types ← Run.ofWorkspace (workspace.select names workspace.catalog.classes)
    let workspace ← request.withDocumentation files workspace
    let strict := request.isStrict workspace.settings
    let declaration ← (workspace.viewModels strict types).mapError .workspace
    return typeScriptFile workspace.settings declaration.text declaration.imports
  | .enums catalog names =>
    let workspace ← request.load home files catalog
    let types ← Run.ofWorkspace (workspace.select names workspace.catalog.enums)
    -- Types that are asked for by name may be of another kind; then nothing is generated.
    match namesWhere workspace types (!·.facts.isEnum) with
    | [] =>
      let workspace ← request.withDocumentation files workspace
      let body ← Run.ofWorkspace (workspace.enums types)
      return typeScriptFile workspace.settings body
    | others => Report.fail (.notEnums others)
  | .constants catalog names =>
    let workspace ← request.load home files catalog
    let types ← Run.ofWorkspace (workspace.select names workspace.catalog.constantClasses)
    match namesWhere workspace types (!Catalog.hasConstants ·) with
    | [] =>
      let workspace ← request.withDocumentation files workspace
      return typeScriptFile workspace.settings (workspace.constants types)
    | others => Report.fail (.noConstants others)
  | .entityBag catalog entity space =>
    let workspace ← request.load home files catalog
    let type ← Run.ofWorkspace (workspace.get entity)
    let workspace ← request.withDocumentation files workspace
    let strict := request.isStrict workspace.settings
    let declaration ←
      (workspace.entityBag strict (workspace.summary? type) type).mapError .workspace
    return cSharpFile workspace.settings declaration.text space declaration.imports
  | .optionsBag name space summary? =>
    let settings ← request.settings home files
    return cSharpFile settings (optionsBag name summary?).text space

/-! ### Writing -/

/-- What came of writing. -/
inductive Written where
  | toOutput (text : String)
  | toFile (path : Path) (files : FileTree)
  /-- Not all of the text is where it should be; what was done for it to the files is left. -/
  | broken (failure : Failure) (files : FileTree)

/-- The failure of a request whose output meets an obstacle. -/
def failureOf (output : Path) : Obstacle → Failure
  | .problem problem path => .cannotWrite output problem path
  | .notEncodable => .notEncodable

/-- Write a text where a request wants it. -/
def write (request : Request) (files : FileTree) (text : String) : Written :=
  match request.output? with
  | none =>
    if Text.isEncodable files.standIn text then .toOutput text else .broken .notEncodable files
  | some output =>
    match (FileTree.writeWithFolders output text).on files with
    | (.ok _, files) => .toFile output files
    | (.error obstacle, files) => .broken (failureOf output obstacle) files

/-- Carry out a request. -/
def run (request : Request) (home : String) (files : FileTree) : Run Written := do
  return request.write files (← request.generate home files)

end Request

/-! ### Command lines -/

/-- What is left when a command line has been carried out. -/
structure Outcome where
  exitCode : Nat
  output : String := ""
  /-- The lines of notices and errors. -/
  messages : String := ""
  files : FileTree
  /-- Why the request failed, if it did. -/
  failure? : Option Failure := none

namespace Outcome

/-- The line of a notice. -/
def noticeLine (notice : Notice) : String :=
  let level := match notice.level with
    | .debug => "DEBUG"
    | .warning => "WARNING"
  level ++ ": " ++ notice.source ++ ": " ++ notice.text ++ "\n"

/-- The lines of those notices that are shown; debugging notices need a verbose request. -/
def noticeLines (verbose : Bool) (notices : List Notice) : String :=
  String.join ((notices.filter fun notice => verbose || notice.level == .warning).map noticeLine)

/-- A failure that leaves some files. -/
def failed (messages : String) (failure : Failure) (files : FileTree) : Outcome :=
  { exitCode := 1, messages := messages ++ failure.line, files, failure? := some failure }

/-- The outcome of a request on some files. -/
def ofReport (verbose : Bool) (files : FileTree) (report : Run Request.Written) : Outcome :=
  let messages := noticeLines verbose report.notices
  match report.outcome with
  | .ok (.toOutput text) => { exitCode := 0, output := text, messages, files }
  | .ok (.toFile path files) =>
    { exitCode := 0, messages := messages ++ "Wrote " ++ path.text ++ "\n", files }
  | .ok (.broken failure files) => failed messages failure files
  | .error failure => failed messages failure files

end Outcome

/-- Carry out a command line in the working folder `home` with some files. -/
def run (home : String) (files : FileTree) (line : List String) : Outcome :=
  match Request.read line with
  | .error .help => { exitCode := 0, files }
  | .error .usage => { exitCode := 2, files }
  | .error .noPath => { exitCode := 1, files }
  | .ok request => .ofReport request.verbose files (request.run home files)

end TypeExport.Command
