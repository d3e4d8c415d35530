import TypeExport.Text.Digit
import TypeExport.Text.Search
import TypeExport.Xml.NameSet

/-!
# Character data

Characters of a document, references to characters, and names.

* `isAllowed` — characters that a document may contain.
* `Piece`, `pieces?` — characters, references to characters, and references to entities.
* `localName?`, `Written` — names and their parts.
-/

namespace TypeExport.Xml

open TypeExport.Text

/-- White space between the parts of a tag. -/
def isSpace (c : Char) : Bool :=
  c == ' ' || c == '\t' || c == '\n' || c == '\r'

/-- A character that a document may contain. -/
def isAllowed (c : Char) : Bool :=
  isSpace c || (decide (0x20 ≤ c.toNat) && c.toNat != 0xfffe && c.toNat != 0xffff)

/-! ### Names -/

/-- A name as it is written: a part behind a colon may have a qualifier in front of it. -/
structure Written where
  qualifier? : Option String
  part : String
deriving DecidableEq, Repr

namespace Written

/-- The name in full. -/
def full (name : Written) : String :=
  match name.qualifier? with
  | none => name.part
  | some qualifier => qualifier ++ ":" ++ name.part

end Written

/-- A name without colon at the head of a text. -/
def localName? : List Char → Option (String × List Char)
  | [] => none
  | c :: rest =>
    if isNameStart c then
      some (.ofList (c :: rest.takeWhile isNamePart), rest.dropWhile isNamePart)
    else none

/-- A name at the head of a text. -/
def writtenName? (text : List Char) : Option (Written × List Char) := do
  let (first, rest) ← localName? text
  match rest with
  | ':' :: behind =>
    let (part, rest) ← localName? behind
    return (⟨some first, part⟩, rest)
  | _ => return (⟨none, first⟩, rest)

/-! ### References -/

/-- The character of a number. -/
def charOfNumber? (number : Nat) : Option Char :=
  if h : number.isValidChar then
    let c := Char.ofNatAux number h
    if isAllowed c then some c else none
  else none

/-- A part of a text: a character, or a reference to the entity of a name. -/
inductive Piece where
  | char (c : Char)
  | entity (name : String)
deriving DecidableEq, Repr

/-- Entities that are always there. -/
def standardEntities : List (String × Char) :=
  [("amp", '&'), ("lt", '<'), ("gt", '>'), ("quot", '"'), ("apos", '\'')]

/-- What a reference stands for, without the marks around it. -/
def referent? : List Char → Option Piece
  | '#' :: 'x' :: digits => ((number? 16 digits).bind charOfNumber?).map .char
  | '#' :: digits => ((number? 10 digits).bind charOfNumber?).map .char
  | inside =>
    match localName? inside with
    | some (name, []) => some (.entity name)
    | _ => none

/-- The pieces of a text; `pending?` holds, in reverse, what was read of a reference. -/
def piecesFrom? : Option (List Char) → List Char → Option (List Piece)
  | none, [] => some []
  | some _, [] => none
  | none, '&' :: rest => piecesFrom? (some []) rest
  | none, c :: rest => (piecesFrom? none rest).map (.char c :: ·)
  | some pending, ';' :: rest => do
    let piece ← referent? pending.reverse
    return piece :: (← piecesFrom? none rest)
  | some pending, c :: rest => piecesFrom? (some (c :: pending)) rest

/-- The pieces of a text, if all references in it are well formed. -/
def pieces? (text : List Char) : Option (List Piece) :=
  piecesFrom? none text

end TypeExport.Xml
