import TypeExport.Settings
import TypeExport.Yaml.Build
import TypeExport.Yaml.Field

/-!
# Reading settings

Settings are a mapping from the names of fields, with dashes between their words; the modules of
generated TypeScript stand in a mapping of their own.  What is not mentioned keeps its default.

* `textFields`, `commentFields`, `moduleFields` — the names of the fields.
* `Settings.assign`, `ModulePaths.assign` — set one field.
* `Settings.ofDocument`, `Settings.read` — the settings of a document.
* `SettingsError` — why there are none.
-/

namespace TypeExport

open Yaml (Document Value Fields Expected)

/-- Why a document holds no settings. -/
inductive SettingsProblem where
  | notMapping
  | modulesNotMapping
  | unknownField (inModules : Bool) (key : String)
  | wrongValue (inModules : Bool) (key : String) (expected : Expected)
deriving DecidableEq, Repr

/-- The key of the modules of generated TypeScript. -/
def modulesKey : String := "typescript"

namespace SettingsProblem

/-- The words for the part of the document that holds a field. -/
def partWords (inModules : Bool) : String :=
  if inModules then modulesKey ++ ": " else ""

/-- The text shown for the problem. -/
def message : SettingsProblem → String
  | notMapping => "generator config must be a YAML mapping"
  | modulesNotMapping => "'" ++ modulesKey ++ "' must be a YAML mapping"
  | unknownField inModules key => partWords inModules ++ "unknown field '" ++ key ++ "'"
  | wrongValue inModules key expected =>
    partWords inModules ++ "'" ++ key ++ "' must be " ++ expected.words

end SettingsProblem

/-- Why there are no settings.  `label` names the document. -/
inductive SettingsError where
  | invalidYaml (label : String)
  /-- The document asks for a value that does not exist. -/
  | noValue (label : String)
  | problem (label : String) (problem : SettingsProblem)
  | fileNotFound (path : String)
  | unreadable (detail : String)
deriving DecidableEq, Repr

namespace SettingsError

/-- The text shown for the error; a value that does not exist is not told as an error. -/
def message : SettingsError → String
  | invalidYaml label => "Invalid YAML in " ++ label
  | noValue _ => ""
  | problem label what => label ++ ": " ++ what.message
  | fileNotFound path => "Generator config file not found: " ++ path
  | unreadable detail => "Cannot read generator config file: " ++ detail

end SettingsError

namespace ModulePaths

/-- The fields with their keys. -/
def moduleFields : List (String × (ModulePaths → String → ModulePaths)) :=
  [("enums-import-root", fun paths value => { paths with enumsRoot := value }),
    ("view-models-import-root", fun paths value => { paths with viewModelsRoot := value }),
    ("identifier-import", fun paths value => { paths with identifier := value }),
    ("reference-bag-import", fun paths value => { paths with referenceBag := value }),
    ("box-import", fun paths value => { paths with box := value })]

/-- Set the field of a key. -/
def assign (paths : ModulePaths) (key : Scalar) (value : Value) :
    Except SettingsProblem ModulePaths :=
  match key.text?.bind fun name => moduleFields.lookup name with
  | none => .error (.unknownField true key.display)
  | some set =>
    match value.nonEmptyText? with
    | none => .error (.wrongValue true key.display .nonEmptyString)
    | some text => .ok (set paths text)

/-- The paths that the fields of a mapping give. -/
def ofFields (fields : Fields) : Except SettingsProblem ModulePaths :=
  fields.foldlM (fun paths field => paths.assign field.1 field.2) {}

end ModulePaths

namespace Settings

/-- The fields that hold a text, with their keys. -/
def textFields : List (String × (Settings → String → Settings)) :=
  [("enums-namespace", fun settings value => { settings with enumsSpace := value }),
    ("view-models-namespace", fun settings value => { settings with viewModelsSpace := value }),
    ("entity-interface", fun settings value => { settings with entityInterface := value }),
    ("enum-domain-attribute", fun settings value => { settings with domainMarker := value }),
    ("box-definition", fun settings value => { settings with boxDefinition := value }),
    ("utility-namespace", fun settings value => { settings with utilitySpace := value }),
    ("reference-bag-name", fun settings value => { settings with referenceBag := value }),
    ("entity-bag-base", fun settings value => { settings with entityBagBase := value })]

/-- The fields that hold a comment or nothing, with their keys. -/
def commentFields : List (String × (Settings → Option String → Settings)) :=
  [("auto-generated-comment", fun settings value => { settings with generatedComment? := value }),
    ("copyright-comment", fun settings value => { settings with copyrightComment? := value })]

/-- The key of the failure policy. -/
def strictKey : String := "strict"

/-- A comment, or null for none. -/
def comment? (value : Value) : Option (Option String) :=
  if value.isNull then some none else value.text?.map some

/-- Set the field of a key that is a text. -/
def assignNamed (settings : Settings) (name : String) (value : Value) :
    Except SettingsProblem Settings :=
  if name = strictKey then
    match value.boolean? with
    | none => .error (.wrongValue false name .boolean)
    | some strict => .ok { settings with strict }
  else
    match commentFields.lookup name, textFields.lookup name with
    | some set, _ =>
      match comment? value with
      | none => .error (.wrongValue false name .string)
      | some comment => .ok (set settings comment)
    | none, some set =>
      match value.nonEmptyText? with
      | none => .error (.wrongValue false name .nonEmptyString)
      | some text => .ok (set settings text)
    | none, none => .error (.unknownField false name)

/-- Set the field of a key. -/
def assign (settings : Settings) (key : Scalar) (value : Value) : Except SettingsProblem Settings :=
  match key.text? with
  | none => .error (.unknownField false key.display)
  | some name => settings.assignNamed name value

/-- The modules of a document, if a value holds them. -/
def readModules (document : Document) (value? : Option Value) :
    Except SettingsProblem ModulePaths :=
  match value? with
  | none => .ok {}
  | some value =>
    match document.fields? value with
    | none => .error .modulesNotMapping
    | some fields => ModulePaths.ofFields fields

/-- The settings of a document; null selects every default.  The modules are taken out of the
document before they are read, which matters if they contain themselves. -/
def ofDocument (document : Document) : Except SettingsProblem Settings :=
  if document.root.isNull then .ok {}
  else
    match document.fields? document.root with
    | none => .error .notMapping
    | some fields => do
      let rest := document.without modulesKey document.root
      let modules ← readModules rest (Value.find? fields modulesKey)
      ((rest.fields? document.root).getD []).foldlM
        (fun settings field => settings.assign field.1 field.2)
        { modules }

/-- The settings of a text named `label` in messages. -/
def read (label text : String) (standIn : Char := Text.standIn) : Except SettingsError Settings :=
  match Document.read standIn text with
  | .error .malformed => .error (.invalidYaml label)
  | .error .noValue => .error (.noValue label)
  | .ok document => (ofDocument document).mapError (.problem label)

end Settings

end TypeExport
