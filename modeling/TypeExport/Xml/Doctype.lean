import TypeExport.Xml.Chars

/-!
# Document types

In front of its root a document may declare entities, the texts that references stand for, and
attributes, which may have defaults.  Declarations of elements and notations only have to be well
formed.  What stands outside the text is not looked up: from the first reference to declarations
outside, further ones are not heeded, unless the document says that it stands alone.

* `Token`, `declaration?` — declarations and their parts.
* `Doctype` — what is declared.
* `Doctype.attribute?` — the meaning of an attribute with its references.
* `doctype?` — the declarations at the head of a text.
-/

namespace TypeExport.Xml

open TypeExport.Text

/-- The text behind white space. -/
def skipSpace (text : List Char) : List Char :=
  text.dropWhile isSpace

/-! ### Comments and processing instructions -/

/-- The text behind a comment whose beginning has been read.  Two dashes only end a comment. -/
def behindComment? (text : List Char) : Option (List Char) := do
  let (content, rest) ← around? "--".toList text
  if content.all isAllowed then behind? ['>'] rest else none

/-- The text behind a processing instruction whose beginning has been read.  The name of the
declaration is reserved, whatever its case. -/
def behindInstruction? (text : List Char) : Option (List Char) := do
  let (target, rest) ← localName? text
  let (content, behind) ← around? "?>".toList rest
  let isReserved := target.toList.map Char.toLower = ['x', 'm', 'l']
  let isSeparate := content.head?.all isSpace
  if isSeparate && !isReserved && content.all isAllowed then some behind else none

/-- The text behind a comment or processing instruction at its head; nothing in the outer option
if something else stands there, and nothing in the inner one if it is malformed. -/
def aside? (text : List Char) : Option (Option (List Char)) :=
  match behind? "<!--".toList text, behind? "<?".toList text with
  | some rest, _ => some (behindComment? rest)
  | none, some rest => some (behindInstruction? rest)
  | none, none => none

/-! ### Parts of declarations -/

/-- A part of a declaration. -/
inductive Token where
  | name (name : Written)
  /-- A word of characters of names that is no name. -/
  | word
  /-- A name with a sign for how often it may occur. -/
  | counted
  | literal (text : List Char)
  /-- A word behind a number sign. -/
  | keyword (word : String)
  /-- A closing parenthesis with the sign behind it. -/
  | closing (count? : Option Char)
  /-- Any other sign. -/
  | sign (c : Char)
deriving DecidableEq, Repr

/-- The signs for how often something may occur. -/
def isCount (c : Char) : Bool :=
  c == '?' || c == '*' || c == '+'

/-- A text starts with white space or with one of the given signs. -/
def isFollowedBy (signs text : List Char) : Bool :=
  text.head?.any fun c => isSpace c || signs.contains c

/-- What a word of characters of names and colons is: the parts between its colons tell. -/
def wordToken (word : List Char) : Token :=
  if word.head?.any isNameStart then
    match word.splitOn ':' with
    | [part] => .name ⟨none, .ofList part⟩
    | [qualifier, c :: part] => .name ⟨some (.ofList qualifier), .ofList (c :: part)⟩
    | _ => .word
  else .word

/-- The token at the head of a text without white space in front.  Some tokens have to be set apart
from those behind them. -/
def tokenHere? : List Char → Option (Token × List Char)
  | [] => none
  | c :: rest =>
    if c = '"' || c = '\'' then do
      let (content, rest) ← around? [c] rest
      if content.all isAllowed && isFollowedBy ['>', '%', '['] rest then
        some (.literal content, rest)
      else none
    else if c = '#' then do
      let (word, rest) ← localName? rest
      if isFollowedBy [')', '>', '%', '|'] rest then some (.keyword word, rest) else none
    else if c = ')' then
      match rest with
      | count :: others =>
        if isCount count then some (.closing (some count), others)
        else if isFollowedBy ['>', ',', '|', ')'] rest then some (.closing none, rest)
        else none
      | [] => none
    -- Set apart by a space, the sign declares an entity for use in declarations.
    else if c = '%' then
      if isFollowedBy ['%'] rest then some (.sign c, rest) else none
    else if ['(', ',', '|', '[', ']', '>'].contains c then some (.sign c, rest)
    else
      let isPart := fun c => isNamePart c || c == ':'
      let word := (c :: rest).takeWhile isPart
      let behind := (c :: rest).dropWhile isPart
      if word.isEmpty then none
      else
        match wordToken word, behind with
        | .name name, count :: others =>
          if isCount count then some (.counted, others)
          else if isFollowedBy ['>', ')', ',', '|', '[', '%'] behind then some (.name name, behind)
          else none
        | token, _ =>
          if isFollowedBy ['>', ')', ',', '|', '[', '%'] behind then some (token, behind) else none

/-- The token at the head of a text. -/
def token? (text : List Char) : Option (Token × List Char) :=
  tokenHere? (skipSpace text)

/-- The tokens up to the end of a declaration, and the text behind it. -/
def declarationTokens? : Nat → List Char → Option (List Token × List Char)
  | 0, _ => none
  | fuel + 1, text => do
    let (token, rest) ← token? text
    if token = .sign '>' then return ([], rest)
    else
      let (tokens, rest) ← declarationTokens? fuel rest
      return (token :: tokens, rest)

namespace Token

/-- A name without colon. -/
def plain (word : String) : Token := .name ⟨none, word⟩

/-- The token is a name, perhaps with a colon. -/
def isName : Token → Bool
  | .name _ => true
  | _ => false

/-- The token is a name without colon. -/
def isPlain : Token → Bool
  | .name ⟨none, _⟩ => true
  | _ => false

/-- The token may stand among the values of an attribute. -/
def isValue : Token → Bool
  | .name _ | .word => true
  | _ => false

end Token

/-! ### What is declared -/

/-- What is declared about an attribute of the elements of a name. -/
structure AttributeRule where
  element : Written
  name : Written
  /-- The value consists of words. -/
  isTokenized : Bool
  default? : Option String

/-- What a document declares. -/
structure Doctype where
  /-- The texts of entities by their names; an entity outside the document has none. -/
  entities : List (String × Option (List Char)) := []
  rules : List AttributeRule := []
  /-- The document says that nothing outside matters. -/
  isAlone : Bool := false
  /-- The document refers to declarations outside. -/
  refersOutside : Bool := false
  /-- Declarations outside may come before those that follow. -/
  isCutOff : Bool := false

namespace Doctype

/-- Whatever is not declared here may be declared outside. -/
def mayMiss (doctype : Doctype) : Bool :=
  doctype.refersOutside && !doctype.isAlone

/-- Further declarations are heeded. -/
def isHeeded (doctype : Doctype) : Bool :=
  !doctype.isCutOff || doctype.isAlone

/-- A step for each character of the texts of entities, and some for each entity. -/
def size (doctype : Doctype) : Nat :=
  doctype.entities.foldl (fun size (_, text?) => size + (text?.getD []).length + 2) 0

/-- Declare an entity; the first declaration of a name counts. -/
def enterEntity (doctype : Doctype) (name : String) (text? : Option (List Char)) : Doctype :=
  if (doctype.entities.lookup name).isSome then doctype
  else { doctype with entities := doctype.entities ++ [(name, text?)] }

/-- What is declared about an attribute. -/
def rule? (doctype : Doctype) (element name : Written) : Option AttributeRule :=
  doctype.rules.find? fun rule => rule.element = element && rule.name = name

/-- Declare an attribute; the first declaration counts. -/
def enterRule (doctype : Doctype) (rule : AttributeRule) : Doctype :=
  if (doctype.rule? rule.element rule.name).isSome then doctype
  else { doctype with rules := doctype.rules ++ [rule] }

/-! ### Attributes -/

/-- What a piece of an attribute means inside the entities `opened`, where `inside?` tells what the
text of another entity means. -/
def attributePiece? (doctype : Doctype) (opened : List String)
    (inside? : String → List Char → Option (List Char)) : Piece → Option (List Char)
  | .char c => some [c]
  | .entity name =>
    match standardEntities.lookup name, doctype.entities.lookup name with
    | some c, _ => some [c]
    | none, some (some text) => if opened.contains name then none else inside? name text
    | none, some none => none
    -- An entity that may be declared outside stands for nothing.
    | none, none => if doctype.mayMiss then some [] else none

/-- What a text in an attribute means inside the entities `opened`: white space counts as spaces. -/
def attributeWithin? (doctype : Doctype) : Nat → List String → List Char → Option (List Char)
  | 0, _, _ => none
  | depth + 1, opened, text => do
    if !text.all isAllowed || text.contains '<' then none
    let pieces ← pieces? (text.map fun c => if isSpace c then ' ' else c)
    let inside? name text := doctype.attributeWithin? depth (name :: opened) text
    return (← pieces.mapM (doctype.attributePiece? opened inside?)).flatten

/-- A value of words, with single spaces between them. -/
def words (value : List Char) : List Char :=
  [' '].intercalate ((value.splitOn ' ').filter (!·.isEmpty))

/-- The meaning of an attribute.  No entity is inside itself, so there are not more levels than
entities. -/
def attribute? (doctype : Doctype) (isTokenized : Bool) (text : List Char) : Option String := do
  let value ← doctype.attributeWithin? (doctype.entities.length + 1) [] text
  return .ofList (if isTokenized then words value else value)

end Doctype

/-! ### Declarations -/

/-- A character of a public identifier. -/
def isPublicChar (c : Char) : Bool :=
  c.isAlphanum || " \r\n-'()+,./:=?;!*#@$_%".toList.contains c

/-- The text of an entity: references to characters are replaced, those to entities are kept. -/
def entityText? (literal : List Char) : Option (List Char) := do
  if literal.contains '%' then none
  let pieces ← pieces? literal
  return pieces.flatMap fun
    | .char c => [c]
    | .entity name => '&' :: name.toList ++ [';']

/-- The tokens refer to something outside the document. -/
def isOutside : List Token → Bool
  | [.name ⟨none, "SYSTEM"⟩, .literal _] => true
  | [.name ⟨none, "PUBLIC"⟩, .literal id, .literal _] => id.all isPublicChar
  | _ => false

/-- The tokens refer to something outside the document that is no text but of a given kind. -/
def isUnparsed (tokens : List Token) : Bool :=
  match tokens.reverse with
  | kind :: .name ⟨none, "NDATA"⟩ :: reference => kind.isPlain && isOutside reference.reverse
  | _ => false

/-- Declare the entity of a name; the tokens are those behind the name. -/
def Doctype.declareEntity? (doctype : Doctype) (name : String) (tokens : List Token) :
    Option Doctype :=
  match tokens with
  | [.literal value] =>
    if doctype.isHeeded then do return doctype.enterEntity name (some (← entityText? value))
    else some doctype
  | _ =>
    if isOutside tokens || isUnparsed tokens then
      some (if doctype.isHeeded then doctype.enterEntity name none else doctype)
    else none

/-- Declare an entity for use in declarations.  There is none in them, so only the form counts. -/
def Doctype.declareParameter? (doctype : Doctype) (tokens : List Token) : Option Doctype :=
  match tokens with
  | [.literal value] =>
    if doctype.isHeeded then (entityText? value).map fun _ => doctype else some doctype
  | _ => if isOutside tokens then some doctype else none

/-- The tokens declare a notation; they are those behind its name. -/
def isNotation (tokens : List Token) : Bool :=
  match tokens with
  | [.name ⟨none, "PUBLIC"⟩, .literal id] => id.all isPublicChar
  | _ => isOutside tokens

/-- The tokens behind a list of values in parentheses whose opening has been read. -/
def behindValues? (isValue : Token → Bool) : List Token → Option (List Token)
  | value :: .sign '|' :: rest => if isValue value then behindValues? isValue rest else none
  | value :: .closing none :: rest => if isValue value then some rest else none
  | _ => none

/-- Types of attributes whose values consist of words. -/
def wordTypes : List String :=
  ["ID", "IDREF", "IDREFS", "ENTITY", "ENTITIES", "NMTOKEN", "NMTOKENS"]

/-- Whether the type of an attribute consists of words, and the tokens behind the type. -/
def attributeType? : List Token → Option (Bool × List Token)
  | .sign '(' :: rest => (behindValues? Token.isValue rest).map (true, ·)
  | .name ⟨none, "NOTATION"⟩ :: .sign '(' :: rest =>
    (behindValues? Token.isPlain rest).map (true, ·)
  | .name ⟨none, word⟩ :: rest =>
    if word = "CDATA" then some (false, rest)
    else if wordTypes.contains word then some (true, rest)
    else none
  | _ => none

/-- The text of the default of an attribute, if it has one, and the tokens behind it. -/
def attributeDefault? : List Token → Option (Option (List Char) × List Token)
  | .keyword "IMPLIED" :: rest | .keyword "REQUIRED" :: rest => some (none, rest)
  | .keyword "FIXED" :: .literal value :: rest | .literal value :: rest => some (some value, rest)
  | _ => none

/-- Declare attributes of the elements of a name. -/
def Doctype.declareAttributes? (element : Written) :
    Nat → Doctype → List Token → Option Doctype
  | _, doctype, [] => some doctype
  | fuel + 1, doctype, .name name :: rest => do
    let (isTokenized, rest) ← attributeType? rest
    let (default?, rest) ← attributeDefault? rest
    if doctype.isHeeded then
      let default? ← match default? with
        | none => some none
        | some text => (doctype.attribute? isTokenized text).map some
      let rule := { element, name, isTokenized, default? }
      declareAttributes? element fuel (doctype.enterRule rule) rest
    else declareAttributes? element fuel doctype rest
  | _, _, _ => none

/-- The tokens behind text in a mixed content: names, all of them behind bars, and a star at the end
if there are any. -/
def isMixed : List Token → Bool
  | [.closing count?] => count? = none || count? = some '*'
  | tokens =>
    match tokens.reverse with
    | .closing (some '*') :: names => isBarred names.reverse
    | _ => false
where
  /-- Names behind bars. -/
  isBarred : List Token → Bool
    | [] => true
    | .sign '|' :: name :: rest => name.isName && isBarred rest
    | _ => false

/-- The tokens end all groups of a content model: `groups` holds what separates the items of each,
as far as it is known, the innermost first. -/
def endsGroups : List (Option Char) → Bool → List Token → Bool
  | [], false, [] => true
  | group :: groups, true, .sign '(' :: rest => endsGroups (none :: group :: groups) true rest
  | group :: groups, true, .name _ :: rest | group :: groups, true, .counted :: rest =>
    endsGroups (group :: groups) false rest
  | _ :: groups, false, .closing _ :: rest => endsGroups groups false rest
  | group :: groups, false, .sign c :: rest =>
    (c == ',' || c == '|') && group.all (· == c) && endsGroups (some c :: groups) true rest
  | _, _, _ => false

/-- The tokens say what elements may contain. -/
def isContentModel : List Token → Bool
  | [.name ⟨none, word⟩] => word = "EMPTY" || word = "ANY"
  | .sign '(' :: .keyword word :: rest => word = "PCDATA" && isMixed rest
  | .sign '(' :: rest => endsGroups [none] true rest
  | _ => false

/-- Heed a declaration with a keyword. -/
def Doctype.declare? (doctype : Doctype) (keyword : String) (tokens : List Token) :
    Option Doctype :=
  match keyword, tokens with
  | "ENTITY", .sign '%' :: .name ⟨none, _⟩ :: rest => doctype.declareParameter? rest
  | "ENTITY", .name ⟨none, name⟩ :: rest => doctype.declareEntity? name rest
  | "NOTATION", .name ⟨none, _⟩ :: rest => if isNotation rest then some doctype else none
  | "ELEMENT", .name _ :: rest => if isContentModel rest then some doctype else none
  | "ATTLIST", .name element :: rest => doctype.declareAttributes? element rest.length rest
  | _, _ => none

/-- Heed the declaration behind the mark of declarations. -/
def Doctype.declaration? (doctype : Doctype) (text : List Char) :
    Option (Doctype × List Char) := do
  let keyword := text.takeWhile Char.isAlpha
  let rest := text.dropWhile Char.isAlpha
  if !rest.head?.any isSpace then none
  let (tokens, rest) ← declarationTokens? rest.length rest
  return (← doctype.declare? (.ofList keyword) tokens, rest)

/-- Heed the declarations up to the bracket behind them. -/
def Doctype.declarations? : Nat → Doctype → List Char → Option (Doctype × List Char)
  | 0, _, _ => none
  | fuel + 1, doctype, text =>
    let text := skipSpace text
    match aside? text, text with
    | some rest?, _ => rest?.bind (declarations? fuel doctype)
    | none, ']' :: rest => some (doctype, rest)
    | none, '%' :: rest => do
      let (_, rest) ← localName? rest
      -- Declarations outside come first from here on.
      let doctype := { doctype with refersOutside := true, isCutOff := true }
      declarations? fuel doctype (← behind? [';'] rest)
    | none, '<' :: '!' :: rest => do
      let (doctype, rest) ← doctype.declaration? rest
      declarations? fuel doctype rest
    | none, _ => none

/-- The tokens of a document type up to its declarations or its end; whether there are declarations
comes with them. -/
def doctypeTokens? : Nat → List Char → Option ((List Token × Bool) × List Char)
  | 0, _ => none
  | fuel + 1, text => do
    let (token, rest) ← token? text
    if token = .sign '>' then return (([], false), rest)
    else if token = .sign '[' then return (([], true), rest)
    else
      let ((tokens, isOpen), rest) ← doctypeTokens? fuel rest
      return ((token :: tokens, isOpen), rest)

/-- What a document declares whose text starts here, and the text behind that.  It may declare
nothing. -/
def doctype? (isAlone : Bool) (text : List Char) : Option (Doctype × List Char) :=
  match behind? "<!DOCTYPE".toList text with
  | none => some ({ isAlone }, text)
  | some rest => do
    if !rest.head?.any isSpace then none
    let ((tokens, isOpen), rest) ← doctypeTokens? rest.length rest
    let refersOutside ← match tokens with
      | [.name _] => some false
      | .name _ :: reference => if isOutside reference then some true else none
      | _ => none
    let doctype : Doctype := { isAlone, refersOutside }
    if isOpen then
      let (doctype, rest) ← Doctype.declarations? rest.length doctype rest
      return (doctype, ← behind? ['>'] (skipSpace rest))
    else return (doctype, rest)

end TypeExport.Xml
