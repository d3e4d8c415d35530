import TypeExport.Text.Blank

/-!
# Tokens of type expressions

A type expression is made of dotted names and a few symbols, with blanks anywhere between them.

* `Token` — a name or symbol with its column, counted from one.
* `nameLength` — the length of the longest dotted name at the head of a text.
* `Token.scan` — the tokens of a text, or the first character that belongs to none.
-/

namespace TypeExport.Expression

/-- A dotted name or a symbol. -/
inductive TokenKind where
  | name (text : String)
  | symbol (symbol : Char)
deriving DecidableEq, Repr

/-- A token and the column where it starts. -/
structure Token where
  kind : TokenKind
  column : Nat
deriving DecidableEq, Repr

/-- A character that a segment of a name may start with. -/
def startsName (c : Char) : Bool :=
  (decide ('A' ≤ c) && decide (c ≤ 'Z')) || (decide ('a' ≤ c) && decide (c ≤ 'z')) || c == '_'

/-- A character that a segment of a name may go on with. -/
def continuesName (c : Char) : Bool :=
  startsName c || (decide ('0' ≤ c) && decide (c ≤ '9'))

/-- The characters that are tokens of their own. -/
def symbols : List Char := ['<', '>', ',', '?', '[', ']']

/-- How far a name that has begun goes on.  A dot belongs to it if another segment follows. -/
def nameRest : List Char → Nat
  | [] => 0
  | c :: rest =>
    if continuesName c then nameRest rest + 1
    else if c = '.' then
      match rest with
      | [] => 0
      | next :: _ => if startsName next then nameRest rest + 1 else 0
    else 0

/-- The length of the longest dotted name at the head of a text. -/
def nameLength : List Char → Nat
  | [] => 0
  | c :: rest => if startsName c then nameRest rest + 1 else 0

/-- A character that belongs to no token. -/
structure StrayCharacter where
  character : Char
  column : Nat
deriving DecidableEq, Repr

namespace Token

/-- The tokens of the rest of a text from a column on, after passing over `skip` characters that
belong to the token before. -/
def scanFrom : Nat → Nat → List Char → Except StrayCharacter (List Token)
  | _, _, [] => .ok []
  | skip + 1, column, _ :: rest => scanFrom skip (column + 1) rest
  | 0, column, c :: rest =>
    if Text.isBlank c then scanFrom 0 (column + 1) rest
    else if symbols.contains c then do
      let others ← scanFrom 0 (column + 1) rest
      return ⟨.symbol c, column⟩ :: others
    else
      match nameLength (c :: rest) with
      | 0 => .error ⟨c, column⟩
      | length + 1 => do
        let others ← scanFrom length (column + 1) rest
        return ⟨.name (.ofList ((c :: rest).take (length + 1))), column⟩ :: others

/-- The tokens of a text. -/
def scan (text : List Char) : Except StrayCharacter (List Token) :=
  scanFrom 0 1 text

end Token

end TypeExport.Expression
