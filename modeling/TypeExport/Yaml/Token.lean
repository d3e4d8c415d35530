import TypeExport.Yaml.ScalarText

/-!
# Tokens of a document

A document as tokens: the marks of collections, keys, values, entries, and scalars.  Block
collections have no marks of their own; they begin and end with the indentation of their entries,
and the tokens say so.  A key without a mark is only known as a key when the colon behind it is
met: until then it is remembered where the token of the key would have to stand.

* `Token` — the tokens.
* `Scan` — how far a document has been read, with its open collections and possible keys.
* `Token.scan` — the tokens of a document, if it has any reading.
-/

namespace TypeExport.Yaml

/-- A part of a document. -/
inductive Token where
  | versionDirective (major : Nat)
  | tagDirective (handle beginning : String)
  | otherDirective
  | documentStart
  | documentEnd
  | blockSequenceStart
  | blockMappingStart
  | blockEnd
  | flowSequenceStart
  | flowSequenceEnd
  | flowMappingStart
  | flowMappingEnd
  | blockEntry
  | flowEntry
  | key
  | value
  | alias (name : String)
  | anchor (name : String)
  | tag (handle? : Option String) (ending : String)
  | scalar (text : String) (plain : Bool)
deriving DecidableEq, Repr

/-- A token that may turn out to be a key: how many tokens stand before it, and where it is. -/
structure PossibleKey where
  tokensBefore : Nat
  required : Bool
  index : Nat
  line : Nat
  column : Nat

/-- How far a document has been read. -/
structure Scan where
  cursor : Cursor
  /-- The stand-in for surrogates. -/
  standIn : Char
  /-- The tokens found, the last one first. -/
  tokens : List Token := []
  count : Nat := 0
  flowDepth : Nat := 0
  /-- The column of the innermost block collection, below zero outside of all. -/
  indent : Int := -1
  outerIndents : List Int := []
  keyAllowed : Bool := true
  /-- Possible keys by the depth of flow collections around them. -/
  possibleKeys : List (Nat × PossibleKey) := []

namespace Scan

/-- Inside a flow collection. -/
def inFlow (scan : Scan) : Bool :=
  scan.flowDepth != 0

/-- Add a token. -/
def push (token : Token) (scan : Scan) : Scan :=
  { scan with tokens := token :: scan.tokens, count := scan.count + 1 }

/-- Put a token where `before` tokens stand in front of it. -/
def insert (token : Token) (before : Nat) (scan : Scan) : Scan :=
  { scan with
    tokens := scan.tokens.insertIdx (scan.count - before) token
    count := scan.count + 1 }

/-- Move on by some characters. -/
def skip (count : Nat) (scan : Scan) : Scan :=
  { scan with cursor := scan.cursor.skip count }

/-! ### Possible keys -/

/-- The longest text that can be a key without a mark. -/
def longestKey : Nat := 1024

/-- A possible key is out of date on a later line, or when the text since then is too long. -/
def isStale (scan : Scan) (key : PossibleKey) : Bool :=
  key.line != scan.cursor.line || decide (scan.cursor.index - key.index > longestKey)

/-- Forget the keys that are out of date; one that was required makes the document malformed. -/
def dropStaleKeys (scan : Scan) : Option Scan :=
  if scan.possibleKeys.any fun (_, key) => scan.isStale key && key.required then none
  else
    some { scan with possibleKeys := scan.possibleKeys.filter fun (_, key) => !scan.isStale key }

/-- Forget the possible key at the present depth; it may not have been required. -/
def dropKey (scan : Scan) : Option Scan :=
  match scan.possibleKeys.lookup scan.flowDepth with
  | none => some scan
  | some key =>
    if key.required then none
    else some { scan with possibleKeys := scan.possibleKeys.filter (·.1 != scan.flowDepth) }

/-- The next token may be a key.  It has to be one where a block collection asks for an entry. -/
def markKey (scan : Scan) : Option Scan :=
  if scan.keyAllowed then do
    let scan ← scan.dropKey
    let key : PossibleKey :=
      { tokensBefore := scan.count
        required := !scan.inFlow && scan.indent == scan.cursor.column
        index := scan.cursor.index
        line := scan.cursor.line
        column := scan.cursor.column }
    return { scan with possibleKeys := (scan.flowDepth, key) :: scan.possibleKeys }
  else some scan

/-! ### Indentation -/

/-- End block collections that are indented deeper than a column. -/
def unwindTo (column : Int) : List Int → Scan → Scan
  | [], scan => scan
  | outer :: outers, scan =>
    if column < scan.indent then
      unwindTo column outers ({ scan with indent := outer, outerIndents := outers }.push .blockEnd)
    else scan

/-- End the block collections that the column closes; a flow collection ignores indentation. -/
def unwind (column : Int) (scan : Scan) : Scan :=
  if scan.inFlow then scan else unwindTo column scan.outerIndents scan

/-- The column lies deeper than the innermost block collection. -/
def isDeeper (scan : Scan) (column : Nat) : Bool :=
  decide (scan.indent < column)

/-- Begin a block collection at a column. -/
def indentTo (column : Nat) (scan : Scan) : Scan :=
  { scan with indent := column, outerIndents := scan.indent :: scan.outerIndents }

/-! ### Single tokens -/

/-- A token of some characters with nothing in it. -/
def mark (token : Token) (length : Nat) (scan : Scan) : Scan :=
  (scan.skip length).push token

/-- The start of a flow collection. -/
def openFlow (token : Token) (scan : Scan) : Option Scan := do
  let scan ← scan.markKey
  return { scan with flowDepth := scan.flowDepth + 1, keyAllowed := true }.mark token 1

/-- The end of a flow collection. -/
def closeFlow (token : Token) (scan : Scan) : Option Scan := do
  let scan ← scan.dropKey
  match scan.flowDepth with
  | 0 => none
  | depth + 1 => return { scan with flowDepth := depth, keyAllowed := false }.mark token 1

/-- The comma between entries of a flow collection. -/
def flowEntry (scan : Scan) : Option Scan := do
  let scan ← { scan with keyAllowed := true }.dropKey
  return scan.mark .flowEntry 1

/-- The dash before an entry of a block sequence, which may begin the sequence. -/
def blockEntry (scan : Scan) : Option Scan := do
  let column := scan.cursor.column
  let scan ←
    if scan.inFlow then some scan
    else if !scan.keyAllowed then none
    else if scan.isDeeper column then some ((scan.indentTo column).push .blockSequenceStart)
    else some scan
  let scan ← { scan with keyAllowed := true }.dropKey
  return scan.mark .blockEntry 1

/-- The question mark before a key, which may begin a block mapping. -/
def explicitKey (scan : Scan) : Option Scan := do
  let column := scan.cursor.column
  let scan ←
    if scan.inFlow then some scan
    else if !scan.keyAllowed then none
    else if scan.isDeeper column then some ((scan.indentTo column).push .blockMappingStart)
    else some scan
  let scan ← { scan with keyAllowed := !scan.inFlow }.dropKey
  return scan.mark .key 1

/-- The colon before a value.  A possible key in front of it becomes a key, and may begin a block
mapping there. -/
def valueMark (scan : Scan) : Option Scan := do
  match scan.possibleKeys.lookup scan.flowDepth with
  | some key =>
    let scan :=
      { scan with
        possibleKeys := scan.possibleKeys.filter (·.1 != scan.flowDepth)
        keyAllowed := false }.insert .key key.tokensBefore
    let scan :=
      if !scan.inFlow && scan.isDeeper key.column then
        (scan.indentTo key.column).insert .blockMappingStart key.tokensBefore
      else scan
    return scan.mark .value 1
  -- Without a possible key the value has an empty one, in a block only where keys may stand.
  | none =>
    let column := scan.cursor.column
    let scan ←
      if scan.inFlow then some scan
      else if !scan.keyAllowed then none
      else if scan.isDeeper column then some ((scan.indentTo column).push .blockMappingStart)
      else some scan
    let scan ← { scan with keyAllowed := !scan.inFlow }.dropKey
    return scan.mark .value 1

/-- A character of the name of an anchor, a tag handle or a directive. -/
def isWordChar (c : Char) : Bool :=
  (decide ('0' ≤ c) && decide (c ≤ '9')) || (decide ('A' ≤ c) && decide (c ≤ 'Z'))
    || (decide ('a' ≤ c) && decide (c ≤ 'z')) || c == '-' || c == '_'

/-- A word and the place behind it; it may not be empty. -/
def word (cursor : Cursor) : Option (String × Cursor) :=
  let (chars, cursor) := cursor.takeWhile isWordChar
  if chars.isEmpty then none else some (.ofList chars, cursor)

/-- The name of an anchor or alias behind its mark. -/
def anchorName (make : String → Token) (scan : Scan) : Option Scan := do
  let scan ← scan.markKey
  let (name, cursor) ← word scan.cursor.next
  if isBlankOrEnd cursor.peek || ['?', ':', ',', ']', '}', '%', '@', '\x60'].contains cursor.peek then
    return { scan with cursor, keyAllowed := false }.push (make name)
  else none

/-- A scalar between quotes. -/
def quoted (double : Bool) (scan : Scan) : Except Fault Scan := do
  let scan ← orFault .malformed scan.markKey
  let (text, cursor) ← quotedText scan.standIn double scan.cursor
  return { scan with cursor, keyAllowed := false }.push (.scalar (.ofList text) false)

/-- A block scalar. -/
def block (folded : Bool) (scan : Scan) : Option Scan := do
  let scan ← { scan with keyAllowed := true }.dropKey
  let (text, cursor) ← blockText folded scan.indent scan.cursor
  return { scan with cursor }.push (.scalar (.ofList text) false)

/-- A plain scalar. -/
def plain (scan : Scan) : Option Scan := do
  let scan ← scan.markKey
  let (text, ended, cursor) := plainText scan.inFlow (scan.indent + 1).toNat scan.cursor
  return { scan with cursor, keyAllowed := ended }.push (.scalar (.ofList text) true)

/-! ### Tags and directives -/

/-- A character of a tag that stands for itself. -/
def isTagChar (c : Char) : Bool :=
  isWordChar c || ";/?:@&=+$,.!~*'()[]".toList.contains c

/-- Bytes written with percent signs. -/
def tagBytes : Nat → List UInt8 → Cursor → Option (List UInt8 × Cursor)
  | 0, bytes, cursor => some (bytes, cursor)
  | fuel + 1, bytes, cursor =>
    if cursor.peek == '%' then do
      let code ← hexNumber? 2 cursor.next.rest
      tagBytes fuel (bytes ++ [code.toUInt8]) (cursor.skip 3)
    else some (bytes, cursor)

/-- The text of a tag, in which bytes written with percent signs have to form characters. -/
def tagTextFrom : Nat → List Char → Cursor → Option (List Char × Cursor)
  | 0, text, cursor => some (text, cursor)
  | fuel + 1, text, cursor =>
    if cursor.peek == '%' then do
      let (bytes, cursor) ← tagBytes cursor.fuel [] cursor
      let decoded ← String.fromUTF8? ⟨bytes.toArray⟩
      tagTextFrom fuel (text ++ decoded.toList) cursor
    else
      let (chars, cursor) := cursor.takeWhile isTagChar
      if chars.isEmpty then some (text, cursor) else tagTextFrom fuel (text ++ chars) cursor

/-- The text of a tag, which may not be empty. -/
def tagText (cursor : Cursor) : Option (String × Cursor) := do
  let (text, cursor) ← tagTextFrom cursor.fuel [] cursor
  if text.isEmpty then none else some (.ofList text, cursor)

/-- The handle of a tag: an exclamation mark, or a word between two of them. -/
def tagHandle (cursor : Cursor) : Option (String × Cursor) :=
  if cursor.peek != '!' then none
  else if cursor.peek 1 == ' ' then some ("!", cursor.next)
  else
    let (chars, behind) := cursor.next.takeWhile isWordChar
    if behind.peek == '!' then some ("!" ++ .ofList chars ++ "!", behind.next) else none

/-- The exclamation mark at the head of a tag is part of a handle with two of them. -/
def hasLongHandle (cursor : Cursor) : Bool :=
  (cursor.rest.drop 1).takeWhile (!isSpaceOrEnd ·) |>.contains '!'

/-- Handle and text of a tag. -/
def tagParts (cursor : Cursor) : Option (Option String × String × Cursor) :=
  if cursor.peek 1 == '<' then do
    let (text, cursor) ← tagText (cursor.skip 2)
    if cursor.peek == '>' then some (none, text, cursor.next) else none
  else if isBlankOrEnd (cursor.peek 1) then some (none, "!", cursor.next)
  else if hasLongHandle cursor then do
    let (handle, cursor) ← tagHandle cursor
    let (text, cursor) ← tagText cursor
    return (some handle, text, cursor)
  else do
    let (text, cursor) ← tagText cursor.next
    return (some "!", text, cursor)

/-- A tag. -/
def tag (scan : Scan) : Option Scan := do
  let scan ← scan.markKey
  let (handle?, text, cursor) ← tagParts scan.cursor
  if isSpaceOrEnd cursor.peek then
    return { scan with cursor, keyAllowed := false }.push (.tag handle? text)
  else none

/-- A number of decimal digits. -/
def number (cursor : Cursor) : Option (Nat × Cursor) :=
  let (digits, cursor) := cursor.takeWhile fun c => decide ('0' ≤ c) && decide (c ≤ '9')
  if digits.isEmpty then none
  else some (digits.foldl (fun n c => n * 10 + (c.toNat - '0'.toNat)) 0, cursor)

/-- The value of a version directive. -/
def versionValue (cursor : Cursor) : Option (Token × Cursor) := do
  let (major, cursor) ← number cursor.skipSpaces
  if cursor.peek != '.' then none
  else
    let (_, cursor) ← number cursor.next
    if isSpaceOrEnd cursor.peek then some (.versionDirective major, cursor) else none

/-- The value of a tag directive. -/
def tagValue (cursor : Cursor) : Option (Token × Cursor) := do
  let (handle, cursor) ← tagHandle cursor.skipSpaces
  if cursor.peek != ' ' then none
  else
    let (beginning, cursor) ← tagText cursor.skipSpaces
    if isSpaceOrEnd cursor.peek then some (.tagDirective handle beginning, cursor) else none

/-- A directive, up to the end of its line. -/
def directive (scan : Scan) : Option Scan := do
  let scan ← (scan.unwind (-1)).dropKey
  let (name, cursor) ← word scan.cursor.next
  if !isSpaceOrEnd cursor.peek then none
  else
    let (token, cursor) ←
      if name == "YAML" then versionValue cursor
      else if name == "TAG" then tagValue cursor
      else some (.otherDirective, cursor.skipLine)
    let cursor ← ignoredLine cursor
    return { scan with cursor, keyAllowed := false }.push token

/-- The start or end of a document. -/
def documentMark (token : Token) (scan : Scan) : Option Scan := do
  let scan ← (scan.unwind (-1)).dropKey
  return { scan with keyAllowed := false }.mark token 3

/-! ### The whole document -/

/-- Move on to the next token over spaces, comments and line breaks.  Outside of flow collections
a new line may start with a key. -/
def toNextToken : Nat → Scan → Scan
  | 0, scan => scan
  | fuel + 1, scan =>
    let cursor := scan.cursor.skipSpaces
    let cursor := if cursor.peek == '#' then cursor.skipLine else cursor
    if isBreak cursor.peek then
      toNextToken fuel
        { scan with cursor := cursor.lineBreak.2, keyAllowed := scan.keyAllowed || !scan.inFlow }
    else { scan with cursor }

/-- A plain scalar can start with this character. -/
def startsPlain (scan : Scan) : Bool :=
  let c := scan.cursor.peek
  !(isBlankOrEnd c || "-?:,[]\x7b\x7d#&*!|>'\"%@`".toList.contains c)
    || (!isBlankOrEnd (scan.cursor.peek 1)
      && (c == '-' || (!scan.inFlow && (c == '?' || c == ':'))))

/-- Read a token that does not begin with a quote. -/
def unquoted (scan : Scan) : Option Scan :=
  let cursor := scan.cursor
  let c := cursor.peek
  let standsAlone := isBlankOrEnd (cursor.peek 1)
  -- Marks at the start of a line come before all that their characters mean elsewhere.
  if c == '%' && cursor.column == 0 then scan.directive
  else if cursor.column == 0 && cursor.atDocumentMark '-' then scan.documentMark .documentStart
  else if cursor.column == 0 && cursor.atDocumentMark '.' then scan.documentMark .documentEnd
  else if c == '[' then scan.openFlow .flowSequenceStart
  else if c == '{' then scan.openFlow .flowMappingStart
  else if c == ']' then scan.closeFlow .flowSequenceEnd
  else if c == '}' then scan.closeFlow .flowMappingEnd
  else if c == ',' then scan.flowEntry
  -- Without a blank behind it, each of these three may begin a plain scalar; but in a flow
  -- collection the last two are marks all the same.
  else if c == '-' && standsAlone then scan.blockEntry
  else if c == '?' && (scan.inFlow || standsAlone) then scan.explicitKey
  else if c == ':' && (scan.inFlow || standsAlone) then scan.valueMark
  else if c == '*' then scan.anchorName .alias
  else if c == '&' then scan.anchorName .anchor
  else if c == '!' then scan.tag
  else if c == '|' && !scan.inFlow then scan.block false
  else if c == '>' && !scan.inFlow then scan.block true
  else if scan.startsPlain then scan.plain
  else none

/-- Read the token at the cursor. -/
def token (scan : Scan) : Except Fault Scan :=
  let c := scan.cursor.peek
  if c == '"' || c == '\'' then scan.quoted (c == '"') else orFault .malformed scan.unquoted

/-- Read tokens up to the end of the document.  Every token and every line moves on, so the fuel
that is left exceeds the text that is left. -/
def toEnd : Nat → Scan → Except Fault Scan
  | 0, _ => .error .malformed
  | fuel + 1, scan => do
    let scan ← orFault .malformed (toNextToken fuel scan).dropStaleKeys
    let scan := scan.unwind scan.cursor.column
    if scan.cursor.rest.isEmpty then orFault .malformed (scan.unwind (-1)).dropKey
    else toEnd fuel (← scan.token)

end Scan

/-- A character that may stand in a document. -/
def isDocumentChar (c : Char) : Bool :=
  let code := c.toNat
  code == 9 || code == 10 || code == 13 || (decide (0x20 ≤ code) && decide (code ≤ 0x7e))
    || code == 0x85 || (decide (0xa0 ≤ code) && decide (code ≤ 0xd7ff))
    || (decide (0xe000 ≤ code) && decide (code ≤ 0xfffd)) || decide (0x10000 ≤ code)

/-- The tokens of a document, if it has any reading.  A byte order mark may stand in front. -/
def Token.scan (standIn : Char) (document : List Char) : Except Fault (List Token) :=
  if document.all isDocumentChar then do
    let start : Cursor := { rest := document }
    let cursor := if start.peek == '\ufeff' then start.next else start
    let scan ← Scan.toEnd (start.fuel + 1) { cursor, standIn }
    return scan.tokens.reverse
  else .error .malformed

end TypeExport.Yaml
