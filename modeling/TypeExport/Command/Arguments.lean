import TypeExport.Command.Word

/-!
# Arguments of a command

The operands of a command stand in a run between options.  The first run that has enough of them
fills all places that it can.

* `Slot` — the places for operands.
* `Arguments` — the operands and the options of a command.
* `Arguments.read` — the arguments that words stand for.
* `Refusal` — why a command line is not carried out.
-/

namespace TypeExport.Command

/-- Why a command line is not carried out. -/
inductive Refusal where
  /-- It asks for help. -/
  | help
  /-- It is malformed. -/
  | usage
  /-- A separator stands where the path of a file has to be. -/
  | noPath
deriving DecidableEq, Repr

/-- Places for operands: for exactly one, or for any number. -/
inductive Slot where
  | one
  | many
deriving DecidableEq, Repr

/-- The operands by slots, the options with their values in order, and whether words are left
over. -/
structure Arguments where
  operands : List (List String) := []
  options : List (Switch × List String) := []
  hasExtras : Bool := false
deriving DecidableEq, Repr

namespace Arguments

/-- The text of a separator. -/
def separatorText : String := "--"

/-- The text of a word that is no option. -/
def operandText : Word → String
  | .operand text => text
  | _ => separatorText

/-- The word is a separator. -/
def isSeparator : Word → Bool
  | .separator => true
  | _ => false

/-- The word names an option. -/
def isOption : Word → Bool
  | .option _ => true
  | _ => false

/-- The words that a slot takes from the head of a run, and the rest of the run.  Separators next
to an operand go with it. -/
def takeSlot? (slot : Slot) (run : List Word) : Option (List Word × List Word) :=
  match slot with
  | .many => some (run, [])
  | .one =>
    let leading := run.takeWhile isSeparator
    match run.drop leading.length with
    | [] => none
    | word :: rest =>
      let trailing := rest.takeWhile isSeparator
      some (leading ++ word :: trailing, rest.drop trailing.length)

/-- The words that some slots take from a run, and the rest of the run. -/
def takeSlots? : List Slot → List Word → Option (List (List Word) × List Word)
  | [], run => some ([], run)
  | slot :: slots, run => do
    let (words, rest) ← takeSlot? slot run
    let (more, rest) ← takeSlots? slots rest
    return (words :: more, rest)

/-- The words that as many slots as possible take from a run, out of the first `count`. -/
def takeMost (slots : List Slot) (run : List Word) : Nat → List (List Word) × List Word
  | 0 => ([], run)
  | count + 1 => (takeSlots? (slots.take (count + 1)) run).getD (takeMost slots run count)

/-- The texts given to a slot or an option: the first separator among them does not count, wherever
it comes from. -/
def textsOf (texts : List String) : List String :=
  texts.erase separatorText

/-- Give the operands of a run to the slots that are still free; the rest of the run is left
over. -/
def fill (arguments : Arguments) (slots : List Slot) (run : List Word) : Arguments :=
  let free := slots.drop arguments.operands.length
  let (taken, rest) := takeMost free run free.length
  { arguments with
    operands := arguments.operands ++ taken.map fun words => textsOf (words.map operandText)
    hasExtras := arguments.hasExtras || !rest.isEmpty }

/-- The options that a word names: some without values, and a last one with the value that the word
holds for it. -/
structure Named where
  flags : List Switch := []
  last : Switch
  value? : Option (List Char) := none

/-- The options that a short name and the text behind it spell.  An option without a value is
followed by the letter of another; otherwise the rest of the text is the value. -/
def spelled? (switches : List Switch) (switch : Switch) : List Char → Option Named
  | [] => some { last := switch }
  | letter :: rest =>
    if switch.takesValue then some { last := switch, value? := some (letter :: rest) }
    else do
      let next ← Word.switchNamed? switches (String.ofList ['-', letter])
      let named ← spelled? switches next rest
      return { named with flags := switch :: named.flags }

/-- The options that a word names, beginning with `switch`. -/
def named? (switches : List Switch) (naming : Naming) (switch : Switch) : Option Named :=
  match naming.attached? with
  | none => some { last := switch }
  | some text =>
    if switch.takesValue then some { last := switch, value? := some text }
    else if naming.isShort && !text.isEmpty then spelled? switches switch text
    else none

/-- The options of a word, and the words behind it.  A value that the word does not hold is the next
word, which has to be an operand. -/
def takeOption (switches : List Switch) (naming : Naming) (switch : Switch) (rest : List Word) :
    Option (List (Switch × List String) × List Word) := do
  let named ← named? switches naming switch
  let flags : List (Switch × List String) := named.flags.map (·, [])
  if named.last.takesValue then
    match named.value?, rest with
    | some text, _ => some (flags ++ [(named.last, textsOf [String.ofList text])], rest)
    | none, .operand text :: rest => some (flags ++ [(named.last, textsOf [text])], rest)
    | none, _ => none
  else some (flags ++ [(named.last, [])], rest)

/-- Read words, each of which is taken by some step. -/
def readFrom (switches : List Switch) (slots : List Slot) :
    Nat → Arguments → List Word → Except Refusal Arguments
  | 0, arguments, _ => .ok arguments
  | _, arguments, [] => .ok arguments
  | fuel + 1, arguments, .option naming :: rest =>
    match naming.switch? with
    -- Unknown options are noted; they are refused when all words have been read.
    | none => readFrom switches slots fuel { arguments with hasExtras := true } rest
    | some switch =>
      match takeOption switches naming switch rest with
      | none => .error .usage
      | some (options, rest) =>
        if options.any (·.1 == .help) then .error .help
        else
          readFrom switches slots fuel
            { arguments with options := arguments.options ++ options } rest
  | fuel + 1, arguments, words =>
    -- Operands that stand together are shared out together.
    let run := words.takeWhile (!isOption ·)
    readFrom switches slots fuel (arguments.fill slots run) (words.dropWhile (!isOption ·))

/-- The arguments that a command line stands for. -/
def read (switches : List Switch) (slots : List Slot) (line : List String) :
    Except Refusal Arguments :=
  match Word.readAll switches line with
  | none => .error .usage
  | some words => readFrom switches slots (words.length + 1) {} words

end Arguments

end TypeExport.Command
