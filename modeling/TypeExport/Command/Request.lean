import TypeExport.Command.Arguments
import TypeExport.Files.Path

/-!
# Requests

What a command line asks for: a task and the options that all tasks share.

* `Task` — what to generate.
* `Request` — a task with its options.
* `Request.read` — the request of a command line.
-/

namespace TypeExport.Command

/-- What to generate. -/
inductive Task where
  /-- View models of some types of a catalog; all classes if none are named. -/
  | viewModels (catalog : Path) (types : List String)
  /-- Tables of some enumerations of a catalog; all of them if none are named. -/
  | enums (catalog : Path) (types : List String)
  /-- Tables of the constants of some classes; all that have any if none are named. -/
  | constants (catalog : Path) (types : List String)
  /-- The bag of an entity, in a namespace. -/
  | entityBag (catalog : Path) (entity : String) (space : String)
  /-- An empty bag, in a namespace. -/
  | optionsBag (name : String) (space : String) (summary? : Option String)
deriving DecidableEq, Repr

/-- A task with the options that all tasks share. -/
structure Request where
  task : Task
  config? : Option Path := none
  docs : List Path := []
  output? : Option Path := none
  strict : Bool := false
  verbose : Bool := false
deriving DecidableEq, Repr

/-- The kinds of tasks. -/
inductive TaskKind where
  | viewModels
  | enums
  | constants
  | entityBag
  | optionsBag
deriving DecidableEq, Repr

namespace TaskKind

/-- The kind of a name. -/
def ofName? : String → Option TaskKind
  | "view-models" => some viewModels
  | "enums" => some enums
  | "system-guids" => some constants
  | "entity-bag" => some entityBag
  | "options-bag" => some optionsBag
  | _ => none

/-- The options of a kind. -/
def switches (kind : TaskKind) : List Switch :=
  [.help, .config, .docs, .output, .strict, .verbose]
    ++ match kind with
      | viewModels | enums | constants => []
      | entityBag => [.space]
      | optionsBag => [.space, .summary]

/-- The places for operands of a kind. -/
def slots : TaskKind → List Slot
  | viewModels | enums | constants => [.one, .many]
  | entityBag => [.one, .one]
  | optionsBag => [.one]

end TaskKind

namespace Arguments

/-- What is given to an option each time, in order. -/
def given (arguments : Arguments) (switch : Switch) : List (List String) :=
  (arguments.options.filter (·.1 == switch)).map (·.2)

/-- What is given to an option the last time. -/
def last? (arguments : Arguments) (switch : Switch) : Option (List String) :=
  (arguments.given switch).getLast?

/-- The values of an option, in order. -/
def values (arguments : Arguments) (switch : Switch) : List String :=
  (arguments.given switch).flatten

/-- The last value of an option. -/
def value? (arguments : Arguments) (switch : Switch) : Option String :=
  (arguments.last? switch).bind (·.head?)

/-- The text of a single value; where a separator stood for it, nothing is left but brackets. -/
def singleText (texts : List String) : String :=
  texts.headD "[]"

/-- The option is given. -/
def has (arguments : Arguments) (switch : Switch) : Bool :=
  arguments.options.any (·.1 == switch)

/-- A separator stands for the path of a file that the task needs; an empty bag has no need of
documentation. -/
def lacksPath (arguments : Arguments) (kind : TaskKind) : Bool :=
  arguments.last? .config == some [] || arguments.last? .output == some []
    || (kind != .optionsBag && (arguments.given .docs).contains [])

/-- The task that arguments describe, if none is missing. -/
def task? (arguments : Arguments) (kind : TaskKind) : Option Task :=
  match kind, arguments.operands, arguments.last? .space with
  | .viewModels, [[catalog], types], _ => some (.viewModels (.ofText catalog) types)
  | .enums, [[catalog], types], _ => some (.enums (.ofText catalog) types)
  | .constants, [[catalog], types], _ => some (.constants (.ofText catalog) types)
  | .entityBag, [[catalog], entity], some space =>
    some (.entityBag (.ofText catalog) (singleText entity) (singleText space))
  | .optionsBag, [[name]], some space =>
    some (.optionsBag name (singleText space) (arguments.value? .summary))
  | _, _, _ => none

end Arguments

namespace Request

/-- The request of a kind that the rest of a command line makes. -/
def readTask (kind : TaskKind) (line : List String) : Except Refusal Request := do
  let arguments ← Arguments.read kind.switches kind.slots line
  match arguments.task? kind, arguments.hasExtras with
  | some task, false =>
    if arguments.lacksPath kind then .error .noPath
    else return {
      task
      config? := (arguments.value? .config).map Path.ofText
      docs := (arguments.values .docs).map Path.ofText
      output? := (arguments.value? .output).map Path.ofText
      strict := arguments.has .strict
      verbose := arguments.has .verbose }
  | _, _ => .error .usage

/-- The options in front of the name of a task; only help may be asked for there. -/
def readLeading : List Word → Except Refusal Unit
  | [] => .ok ()
  | .option naming :: rest =>
    match naming.switch? with
    | none => readLeading rest
    | some switch =>
      if (Arguments.takeOption [.help] naming switch rest).isSome then .error .help
      else .error .usage
  | _ :: rest => readLeading rest

/-- The request of a command line.  It starts with the name of a task; an empty line asks for
help. -/
def read (line : List String) : Except Refusal Request :=
  if line.isEmpty then .error .help
  else
    match Word.readAll [.help] line with
    | none => .error .usage
    | some words => do
      let leading := words.takeWhile Arguments.isOption
      readLeading leading
      match words.drop leading.length, line.drop leading.length with
      | .operand name :: _, _ :: rest =>
        match TaskKind.ofName? name with
        | none => .error .usage
        | some kind =>
          -- Options in front of the task are refused, but only once its own words have been read.
          match leading.isEmpty, readTask kind rest with
          | true, outcome => outcome
          | false, .error .help => .error .help
          | false, _ => .error .usage
      | _, _ => .error .usage

end Request

end TypeExport.Command
