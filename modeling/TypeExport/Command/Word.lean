import TypeExport.Number.Numeral
import TypeExport.Text.LineEnd
import TypeExport.Text.Search

/-!
# Words of a command line

A word names an option, separates options from operands, or is an operand.  Options may be
abbreviated, short options may be written in one word, and a value may follow in the same word.

* `Switch` — the options.
* `Word` — a word with what it stands for.
* `Word.readAll` — the words of a command line, given the options that it may name.
-/

namespace TypeExport.Command

/-- The options. -/
inductive Switch where
  | help
  | config
  | docs
  | output
  | strict
  | verbose
  | space
  | summary
deriving DecidableEq, Repr

namespace Switch

/-- The names of an option. -/
def names : Switch → List String
  | help => ["-h", "--help"]
  | config => ["--config"]
  | docs => ["--docs"]
  | output => ["--output", "-o"]
  | strict => ["--strict"]
  | verbose => ["--verbose", "-v"]
  | space => ["--namespace"]
  | summary => ["--summary"]

/-- The option takes a value. -/
def takesValue : Switch → Bool
  | help | strict | verbose => false
  | config | docs | output | space | summary => true

end Switch

/-- An option as it is named by a word: the option, unless it is unknown, whether its short name is
used, and what is attached to the name in the word. -/
structure Naming where
  switch? : Option Switch
  isShort : Bool := false
  attached? : Option (List Char) := none
deriving DecidableEq, Repr

/-- What a word stands for. -/
inductive Word where
  | operand (text : String)
  /-- Two dashes, behind which every word is an operand. -/
  | separator
  | option (naming : Naming)
deriving DecidableEq, Repr

namespace Word

/-- The option of a name. -/
def switchNamed? (switches : List Switch) (name : String) : Option Switch :=
  switches.find? (·.names.contains name)

/-- A name with one dash. -/
def isShortName (name : String) : Bool :=
  match name.toList with
  | ['-', c] => c != '-'
  | _ => false

/-- The part of a word in front of its first equals sign, and the part behind it. -/
def splitValue? (word : String) : Option (String × List Char) :=
  (Text.around? ['='] word.toList).map fun (name, value) => (String.ofList name, value)

/-- The word is a negative number; a line break may follow it. -/
def isNegativeNumber (word : String) : Bool :=
  Number.isNegativeNumeral (Text.withoutLastBreak word.toList)

/-- The options whose long names a word abbreviates. -/
def longNamings (switches : List Switch) (word : String) : List Naming :=
  let (name, attached?) :=
    match splitValue? word with
    | some (name, value) => (name, some value)
    | none => (word, none)
  switches.flatMap fun switch =>
    (switch.names.filter fun full => name.toList.isPrefixOf full.toList).map fun _ =>
      { switch? := some switch, attached? }

/-- The options whose short name starts a word. -/
def shortNamings (switches : List Switch) (word : String) : List Naming :=
  let short := String.ofList (word.toList.take 2)
  (switches.filter (·.names.contains short)).map fun switch =>
    { switch? := some switch, isShort := true, attached? := some (word.toList.drop 2) }

/-- The options that a word may name which is no full name. -/
def namings (switches : List Switch) (word : String) : List Naming :=
  match (splitValue? word).bind fun (name, value) =>
    (switchNamed? switches name).map (·, name, value)
    with
  | some (switch, name, value) =>
    [{ switch? := some switch, isShort := isShortName name, attached? := some value }]
  | none =>
    if ['-', '-'].isPrefixOf word.toList then longNamings switches word
    else shortNamings switches word

/-- What a word in front of a separator stands for; nothing if it names several options. -/
def read? (switches : List Switch) (word : String) : Option Word :=
  if word.length ≤ 1 || !(['-'].isPrefixOf word.toList) then some (operand word)
  else
    match switchNamed? switches word with
    | some switch => some (option { switch? := some switch, isShort := isShortName word })
    | none =>
      match namings switches word with
      | [naming] => some (option naming)
      | [] =>
        if isNegativeNumber word || word.toList.contains ' ' then some (operand word)
        else some (option { switch? := none })
      | _ => none

/-- The words of a command line; nothing if one of them names several options. -/
def readAll (switches : List Switch) : List String → Option (List Word)
  | [] => some []
  | "--" :: rest => some (separator :: rest.map operand)
  | word :: rest => do return (← read? switches word) :: (← readAll switches rest)

end Word

end TypeExport.Command
