/-!
# Reading positions

A place in a document: the text still to be read, and how far it is from the start of the
document and of its line.

* `Fault` — why a text is no document.
* `Cursor` — the place.
* `Cursor.peek`, `Cursor.skip` — look ahead and move on.
* `Cursor.lineBreak` — pass over a line break.
* `isBreak`, `isBreakOrEnd`, `isSpaceOrEnd` — classes of characters; the end counts as a null.
-/

namespace TypeExport.Yaml

/-- Why a text is no document. -/
inductive Fault where
  /-- The text breaks the rules of documents. -/
  | malformed
  /-- A part of the text has the form of a value that does not exist.  Nobody expects this, so it is
  not told as an error of the text. -/
  | noValue
deriving DecidableEq, Repr

/-- A reading that can only fail by one fault. -/
def orFault {α : Type} (fault : Fault) (reading? : Option α) : Except Fault α :=
  match reading? with
  | some reading => .ok reading
  | none => .error fault

/-- A character that ends a line. -/
def isBreak (c : Char) : Bool :=
  c == '\n' || c == '\r' || c == '\x85' || c == '\u2028' || c == '\u2029'

/-- The null character, which stands for the end of the document. -/
def endMark : Char := '\x00'

/-- The end of a line or of the document. -/
def isBreakOrEnd (c : Char) : Bool :=
  isBreak c || c == endMark

/-- A space or the end of a line. -/
def isSpaceOrEnd (c : Char) : Bool :=
  isBreakOrEnd c || c == ' '

/-- A space, a tab or the end of a line. -/
def isBlankOrEnd (c : Char) : Bool :=
  isSpaceOrEnd c || c == '\t'

/-- A place in a document. -/
structure Cursor where
  rest : List Char
  index : Nat := 0
  line : Nat := 0
  column : Nat := 0

namespace Cursor

/-- The character some places ahead. -/
def peek (cursor : Cursor) (ahead : Nat := 0) : Char :=
  (cursor.rest.drop ahead).headD endMark

/-- Move on by one character.  The two characters of a line break count as one line, and a byte
order mark takes no column. -/
def next (cursor : Cursor) : Cursor :=
  match cursor.rest with
  | [] => cursor
  | c :: rest =>
    if isBreak c && !(c == '\r' && rest.head? == some '\n') then
      { rest, index := cursor.index + 1, line := cursor.line + 1, column := 0 }
    else if c == '\ufeff' then { cursor with rest, index := cursor.index + 1 }
    else { cursor with rest, index := cursor.index + 1, column := cursor.column + 1 }

/-- Move on by some characters. -/
def skip : Nat → Cursor → Cursor
  | 0, cursor => cursor
  | count + 1, cursor => skip count cursor.next

/-- Move on while characters belong to a class; the characters are given too. -/
def takeWhile (cursor : Cursor) (belongs : Char → Bool) : List Char × Cursor :=
  let taken := cursor.rest.takeWhile belongs
  (taken, cursor.skip taken.length)

/-- Move on over spaces. -/
def skipSpaces (cursor : Cursor) : Cursor :=
  (cursor.takeWhile (· == ' ')).2

/-- Move on over spaces and tabs. -/
def skipBlanks (cursor : Cursor) : Cursor :=
  (cursor.takeWhile fun c => c == ' ' || c == '\t').2

/-- Move on to the end of the line. -/
def skipLine (cursor : Cursor) : Cursor :=
  (cursor.takeWhile (!isBreak ·)).2

/-- The line break at the cursor in its normal form, and the place behind it; nothing if there is
none. -/
def lineBreak (cursor : Cursor) : List Char × Cursor :=
  match cursor.rest with
  | '\r' :: '\n' :: _ => (['\n'], cursor.skip 2)
  | c :: _ =>
    if c == '\u2028' || c == '\u2029' then ([c], cursor.next)
    else if isBreak c then (['\n'], cursor.next)
    else ([], cursor)
  | [] => ([], cursor)

/-- A line of three equal marks starts or ends a document. -/
def atDocumentMark (cursor : Cursor) (mark : Char) : Bool :=
  [mark, mark, mark].isPrefixOf cursor.rest && isBlankOrEnd (cursor.peek 3)

/-- Some document starts or ends here. -/
def atAnyDocumentMark (cursor : Cursor) : Bool :=
  cursor.atDocumentMark '-' || cursor.atDocumentMark '.'

/-- Fuel for a loop that moves on in every round. -/
def fuel (cursor : Cursor) : Nat :=
  cursor.rest.length + 1

end Cursor

end TypeExport.Yaml
