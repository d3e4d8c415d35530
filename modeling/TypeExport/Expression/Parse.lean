import TypeExport.Expression.Resolve
import TypeExport.Expression.Token

/-!
# Type expressions

A type is a dotted name, with arguments between angle brackets if it is generic, followed by any
number of marks: a question mark makes the type nullable, a pair of brackets makes it an array.

* `parseType` — read one type and give back the tokens behind it.
* `Scope.parse` — read a whole text.
* `ExpressionError` — what is wrong with a text, and at which column.
-/

namespace TypeExport.Expression

/-- What is wrong with a type expression. -/
inductive Problem where
  | unexpectedCharacter (character : Char)
  | expectedSymbol (symbol : Char)
  | expectedName
  | trailingInput
  | name (problem : NameProblem)
deriving DecidableEq, Repr

namespace NameProblem

/-- The text shown for the problem. -/
def message : NameProblem → String
  | unknownType name => "Unknown type '" ++ name ++ "'"
  | needsArguments name count =>
    "Type '" ++ name ++ "' requires " ++ toString count ++ " type argument(s)"
  | unknownGeneric name count =>
    "Unknown generic type '" ++ name ++ "' with " ++ toString count ++ " argument(s)"

end NameProblem

namespace Problem

/-- The text shown for the problem. -/
def message : Problem → String
  | unexpectedCharacter character => "Unexpected character '" ++ character.toString ++ "'"
  | expectedSymbol symbol => "Expected '" ++ symbol.toString ++ "'"
  | expectedName => "Expected a type name"
  | trailingInput => "Unexpected trailing input"
  | name problem => problem.message

end Problem

/-- A text that is no type expression, or that has a name that stands for no type. -/
structure ExpressionError where
  expression : String
  column : Nat
  problem : Problem
deriving DecidableEq, Repr

namespace ExpressionError

/-- The text shown for the error. -/
def message (error : ExpressionError) : String :=
  "Column " ++ toString error.column ++ " of '" ++ error.expression ++ "': "
    ++ error.problem.message

end ExpressionError

/-- A problem at a column, or at the end of the text. -/
structure Failure where
  problem : Problem
  column? : Option Nat
deriving DecidableEq, Repr

/-- Fail at the first of some tokens. -/
def failAt {α : Type} (problem : Problem) (tokens : List Token) : Except Failure α :=
  .error ⟨problem, tokens.head?.map (·.column)⟩

/-- The marks behind a type, from left to right. -/
def parseMarks (type : TypeRef) : List Token → Except Failure (TypeRef × List Token)
  | ⟨.symbol '?', _⟩ :: rest => parseMarks (.nullable type) rest
  | ⟨.symbol '[', _⟩ :: ⟨.symbol ']', _⟩ :: rest => parseMarks (.array type) rest
  | ⟨.symbol '[', _⟩ :: rest => failAt (.expectedSymbol ']') rest
  | rest => .ok (type, rest)

mutual

/-- Read a type; the tokens behind it are given back.  The fuel bounds the depth of nesting. -/
def parseType (scope : Scope) : Nat → List Token → Except Failure (TypeRef × List Token)
  | fuel + 1, ⟨.name name, column⟩ :: rest => do
    let (arguments, rest) ←
      match rest with
      | ⟨.symbol '<', _⟩ :: rest => parseArguments scope fuel rest
      | rest => .ok ([], rest)
    let type ← (scope.resolve name arguments).mapError fun problem => ⟨.name problem, some column⟩
    parseMarks type rest
  | _, tokens => failAt .expectedName tokens

/-- Read the arguments of a generic type up to the closing bracket. -/
def parseArguments (scope : Scope) : Nat → List Token → Except Failure (List TypeRef × List Token)
  | 0, tokens => failAt .expectedName tokens
  | fuel + 1, tokens => do
    let (first, rest) ← parseType scope fuel tokens
    match rest with
    | ⟨.symbol ',', _⟩ :: rest =>
      let (others, rest) ← parseArguments scope fuel rest
      return (first :: others, rest)
    | ⟨.symbol '>', _⟩ :: rest => return ([first], rest)
    | rest => failAt (.expectedSymbol '>') rest

end

/-- Read all tokens as one type.  Two levels of nesting take at least two tokens, so twice their
number is fuel enough. -/
def parseTokens (scope : Scope) (tokens : List Token) : Except Failure TypeRef := do
  let (type, rest) ← parseType scope (2 * tokens.length + 1) tokens
  match rest with
  | [] => return type
  | rest => failAt .trailingInput rest

namespace Scope

/-- The type that a text denotes. -/
def parse (scope : Scope) (expression : String) : Except ExpressionError TypeRef :=
  match Token.scan expression.toList with
  | .error stray => .error ⟨expression, stray.column, .unexpectedCharacter stray.character⟩
  | .ok tokens =>
    (parseTokens scope tokens).mapError fun failure =>
      ⟨expression, failure.column?.getD (expression.toList.length + 1), failure.problem⟩

end Scope

end TypeExport.Expression
