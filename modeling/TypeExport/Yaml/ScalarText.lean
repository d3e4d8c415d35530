import TypeExport.Text.Digit
import TypeExport.Text.Encoding
import TypeExport.Yaml.Cursor

/-!
# Texts of scalars

A scalar is written plainly, between quotes, or as a block of lines.  Line breaks inside a scalar
are folded: a single one becomes a space, and of several the first is dropped.

* `plainText` — a plain scalar.
* `quotedText` — a scalar between single or double quotes.
* `blockText` — a literal or folded block.

Each gives the text and the place behind it, if the scalar is well formed.  An escape may ask for a
surrogate, whose stand-in is passed on to wherever escapes are read.
-/

namespace TypeExport.Yaml

open TypeExport.Text (number?)

/-- The number written with exactly `count` hexadecimal digits at the head of a text. -/
def hexNumber? (count : Nat) (text : List Char) : Option Nat :=
  let digits := text.take count
  if digits.length = count then number? 16 digits else none

/-! ### Plain scalars -/

/-- A plain scalar ends before this character, given the one behind it. -/
def endsPlain (inFlow : Bool) (c following : Char) : Bool :=
  isBlankOrEnd c
    || (c == ':' && (isBlankOrEnd following
      || (inFlow && [',', '[', ']', '{', '}'].contains following)))
    || (inFlow && [',', '?', '[', ']', '{', '}'].contains c)

/-- The length of a plain scalar up to a blank. -/
def plainLength (inFlow : Bool) : List Char → Nat
  | [] => 0
  | c :: rest =>
    if endsPlain inFlow c (rest.headD endMark) then 0 else plainLength inFlow rest + 1

/-- Line breaks and spaces behind a first line break, up to a document mark; `none` at a document
mark, otherwise the further line breaks. -/
def plainBreaks : Nat → List Char → Cursor → Option (List Char) × Cursor
  | 0, breaks, cursor => (some breaks, cursor)
  | fuel + 1, breaks, cursor =>
    if cursor.peek == ' ' then plainBreaks fuel breaks cursor.next
    else if isBreak cursor.peek then
      let (lineBreak, cursor) := cursor.lineBreak
      if cursor.atAnyDocumentMark then (none, cursor)
      else plainBreaks fuel (breaks ++ lineBreak) cursor
    else (some breaks, cursor)

/-- What stands for the breaks between two lines. -/
def foldBreaks (first others : List Char) : List Char :=
  if first != ['\n'] then first ++ others
  else if others.isEmpty then [' ']
  else others

/-- What stands between two parts of a plain scalar.  The flag tells whether a line was ended. -/
def plainSpaces (cursor : Cursor) : List Char × Bool × Cursor :=
  let (spaces, cursor) := cursor.takeWhile (· == ' ')
  if isBreak cursor.peek then
    let (lineBreak, cursor) := cursor.lineBreak
    if cursor.atAnyDocumentMark then ([], true, cursor)
    else
      match plainBreaks cursor.fuel [] cursor with
      | (none, cursor) => ([], true, cursor)
      | (some breaks, cursor) => (foldBreaks lineBreak breaks, true, cursor)
  else (spaces, false, cursor)

/-- The rest of a plain scalar behind some text and the spaces after it.  `indent` is the least
column of its lines outside of flow collections. -/
def plainFrom (inFlow : Bool) (indent : Nat) :
    Nat → List Char → List Char → Bool → Cursor → List Char × Bool × Cursor
  | 0, text, _, ended, cursor => (text, ended, cursor)
  | fuel + 1, text, spaces, ended, cursor =>
    -- A number sign behind a space starts a comment.
    if cursor.peek == '#' then (text, ended, cursor)
    else
      match plainLength inFlow cursor.rest with
      | 0 => (text, ended, cursor)
      | length + 1 =>
        let text := text ++ spaces ++ cursor.rest.take (length + 1)
        let (spaces, ended, cursor) := plainSpaces (cursor.skip (length + 1))
        if spaces.isEmpty || cursor.peek == '#' || (!inFlow && decide (cursor.column < indent)) then
          (text, ended, cursor)
        else plainFrom inFlow indent fuel text spaces ended cursor

/-- A plain scalar: its text, whether a line was ended behind it, and the place behind it. -/
def plainText (inFlow : Bool) (indent : Nat) (cursor : Cursor) : List Char × Bool × Cursor :=
  plainFrom inFlow indent cursor.fuel [] [] false cursor

/-! ### Quoted scalars -/

/-- Characters written with a backslash and one letter. -/
def escapes : List (Char × Char) :=
  [('0', '\x00'), ('a', '\x07'), ('b', '\x08'), ('t', '\t'), ('\t', '\t'), ('n', '\n'),
    ('v', '\x0b'), ('f', '\x0c'), ('r', '\r'), ('e', '\x1b'), (' ', ' '), ('"', '"'),
    ('\\', '\\'), ('/', '/'), ('N', '\x85'), ('_', '\u00a0'), ('L', '\u2028'), ('P', '\u2029')]

/-- Letters that introduce a character by its code, with the number of digits. -/
def codeEscapes : List (Char × Nat) :=
  [('x', 2), ('u', 4), ('U', 8)]

/-- Line breaks and blanks inside quotes; a document mark may not stand there. -/
def quotedBreaks : Nat → List Char → Cursor → Option (List Char × Cursor)
  | 0, _, _ => none
  | fuel + 1, breaks, cursor =>
    if cursor.atAnyDocumentMark then none
    else
      let cursor := cursor.skipBlanks
      if isBreak cursor.peek then
        let (lineBreak, cursor) := cursor.lineBreak
        quotedBreaks fuel (breaks ++ lineBreak) cursor
      else some (breaks, cursor)

/-- What stands for blanks and line breaks inside quotes. -/
def quotedSpaces (cursor : Cursor) : Option (List Char × Cursor) :=
  let (blanks, cursor) := cursor.takeWhile fun c => c == ' ' || c == '\t'
  if cursor.peek == endMark then none
  else if isBreak cursor.peek then do
    let (lineBreak, cursor) := cursor.lineBreak
    let (breaks, cursor) ← quotedBreaks cursor.fuel [] cursor
    return (foldBreaks lineBreak breaks, cursor)
  else some (blanks, cursor)

/-- The characters that an escape stands for; the cursor is behind the backslash.  There may be no
code point of a number. -/
def escaped (standIn : Char) (cursor : Cursor) : Except Fault (List Char × Cursor) :=
  match escapes.lookup cursor.peek with
  | some c => .ok ([c], cursor.next)
  | none =>
    match codeEscapes.lookup cursor.peek with
    | some count => do
      let code ← orFault .malformed (hexNumber? count cursor.next.rest)
      match Text.ofCode? standIn code with
      | some c => return ([c], cursor.next.skip count)
      | none => .error .noValue
    | none =>
      -- An escaped line break leaves no space where the lines meet.
      if isBreak cursor.peek then
        let cursor := cursor.lineBreak.2
        orFault .malformed (quotedBreaks cursor.fuel [] cursor)
      else .error .malformed

/-- The rest of a quoted scalar behind some text. -/
def quotedFrom (standIn : Char) (double : Bool) :
    Nat → List Char → Cursor → Except Fault (List Char × Cursor)
  | 0, _, _ => .error .malformed
  | fuel + 1, text, cursor =>
    let c := cursor.peek
    if c == (if double then '"' else '\'') then
      -- A single quote that is doubled stands for one.
      if !double && cursor.peek 1 == '\'' then
        quotedFrom standIn double fuel (text ++ ['\'']) (cursor.skip 2)
      else .ok (text, cursor.next)
    else if double && c == '\\' then do
      let (chars, cursor) ← escaped standIn cursor.next
      quotedFrom standIn double fuel (text ++ chars) cursor
    else if isBlankOrEnd c then do
      let (chars, cursor) ← orFault .malformed (quotedSpaces cursor)
      quotedFrom standIn double fuel (text ++ chars) cursor
    else
      -- The other kind of quote stands for itself, and so does a backslash between single quotes.
      let (chars, cursor) := cursor.takeWhile fun c =>
        !(isBlankOrEnd c || c == '"' || c == '\'' || c == '\\')
      if chars.isEmpty then quotedFrom standIn double fuel (text ++ [c]) cursor.next
      else quotedFrom standIn double fuel (text ++ chars) cursor

/-- A quoted scalar; the cursor is at its opening quote. -/
def quotedText (standIn : Char) (double : Bool) (cursor : Cursor) :
    Except Fault (List Char × Cursor) :=
  quotedFrom standIn double cursor.fuel [] cursor.next

/-! ### Block scalars -/

/-- What becomes of the line breaks at the end of a block. -/
inductive Chomping where
  | clip
  | strip
  | keep
deriving DecidableEq

/-- A sign that chooses what becomes of the last line breaks. -/
def chomping? (c : Char) : Option Chomping :=
  if c == '+' then some .keep else if c == '-' then some .strip else none

/-- A digit that gives the indentation of a block. -/
def increment? (c : Char) : Option Nat :=
  if '0' ≤ c && c ≤ '9' then some (c.toNat - '0'.toNat) else none

/-- Sign and digit behind the mark of a block, in either order.  The digit may not be zero, and
only a space or the end of the line may follow. -/
def blockIndicators (cursor : Cursor) : Option (Chomping × Option Nat × Cursor) := do
  let (chomping, digit?, cursor) :=
    match chomping? cursor.peek with
    | some chomping =>
      let cursor := cursor.next
      match increment? cursor.peek with
      | some digit => (chomping, some digit, cursor.next)
      | none => (chomping, none, cursor)
    | none =>
      match increment? cursor.peek with
      | some digit =>
        let cursor := cursor.next
        match chomping? cursor.peek with
        | some chomping => (chomping, some digit, cursor.next)
        | none => (Chomping.clip, some digit, cursor)
      | none => (Chomping.clip, none, cursor)
  if digit? == some 0 || !isSpaceOrEnd cursor.peek then none else some (chomping, digit?, cursor)

/-- The rest of a line that may hold only a comment, and its line break. -/
def ignoredLine (cursor : Cursor) : Option Cursor :=
  let cursor := cursor.skipSpaces
  let cursor := if cursor.peek == '#' then cursor.skipLine else cursor
  if isBreakOrEnd cursor.peek then some cursor.lineBreak.2 else none

/-- The line breaks before the first line of a block, and the deepest column of spaces there. -/
def leadingBreaks : Nat → List Char → Nat → Cursor → List Char × Nat × Cursor
  | 0, breaks, deepest, cursor => (breaks, deepest, cursor)
  | fuel + 1, breaks, deepest, cursor =>
    if cursor.peek == ' ' then
      let cursor := cursor.next
      leadingBreaks fuel breaks (max deepest cursor.column) cursor
    else if isBreak cursor.peek then
      let (lineBreak, cursor) := cursor.lineBreak
      leadingBreaks fuel (breaks ++ lineBreak) deepest cursor
    else (breaks, deepest, cursor)

/-- Move on over spaces up to a column. -/
def skipIndent (indent : Nat) : Nat → Cursor → Cursor
  | 0, cursor => cursor
  | fuel + 1, cursor =>
    if cursor.column < indent && cursor.peek == ' ' then skipIndent indent fuel cursor.next
    else cursor

/-- Line breaks between the lines of a block, and the indentation of the next line. -/
def blockBreaks (indent : Nat) : Nat → List Char → Cursor → List Char × Cursor
  | 0, breaks, cursor => (breaks, cursor)
  | fuel + 1, breaks, cursor =>
    let cursor := skipIndent indent indent cursor
    if isBreak cursor.peek then
      let (lineBreak, cursor) := cursor.lineBreak
      blockBreaks indent fuel (breaks ++ lineBreak) cursor
    else (breaks, cursor)

/-- The lines of a block from the cursor on; the breaks before them have been passed over.  Given
back are the text, the last line break, the breaks behind it and the place. -/
def blockLines (folded : Bool) (indent : Nat) :
    Nat → List Char → List Char → List Char → Cursor → List Char × List Char × List Char × Cursor
  | 0, text, lastBreak, breaks, cursor => (text, lastBreak, breaks, cursor)
  | fuel + 1, text, lastBreak, breaks, cursor =>
    if cursor.column == indent && cursor.peek != endMark then
      let startsPlainly := !(cursor.peek == ' ' || cursor.peek == '\t')
      let (line, cursor) := cursor.takeWhile (!isBreak ·)
      let text := text ++ breaks ++ line
      let (lineBreak, cursor) := cursor.lineBreak
      let (breaks, cursor) := blockBreaks indent cursor.fuel [] cursor
      if cursor.column == indent && cursor.peek != endMark then
        let goesOnPlainly := !(cursor.peek == ' ' || cursor.peek == '\t')
        -- Folding joins two lines that both start plainly; others keep the break between them.
        let joint :=
          if folded && lineBreak == ['\n'] && startsPlainly && goesOnPlainly then
            if breaks.isEmpty then [' '] else []
          else lineBreak
        blockLines folded indent fuel (text ++ joint) lineBreak breaks cursor
      else (text, lineBreak, breaks, cursor)
    else (text, lastBreak, breaks, cursor)

/-- A block scalar inside a collection of some indentation; the cursor is at its mark. -/
def blockText (folded : Bool) (outer : Int) (cursor : Cursor) : Option (List Char × Cursor) := do
  let (chomping, digit?, cursor) ← blockIndicators cursor.next
  let cursor ← ignoredLine cursor
  let least := max 1 (outer + 1).toNat
  let (indent, breaks, cursor) :=
    match digit? with
    | some digit =>
      let indent := least + digit - 1
      let (breaks, cursor) := blockBreaks indent cursor.fuel [] cursor
      (indent, breaks, cursor)
    | none =>
      -- The spaces of leading blank lines count for the indentation, too.
      let (breaks, deepest, cursor) := leadingBreaks cursor.fuel [] 0 cursor
      (max least deepest, breaks, cursor)
  let (text, lastBreak, breaks, cursor) := blockLines folded indent cursor.fuel [] [] breaks cursor
  let text :=
    match chomping with
    | .strip => text
    | .clip => text ++ lastBreak
    | .keep => text ++ lastBreak ++ breaks
  return (text, cursor)

end TypeExport.Yaml
