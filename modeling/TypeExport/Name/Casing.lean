import TypeExport.Text.Blank
import TypeExport.Text.Case
import TypeExport.Text.Replace

/-!
# Spelling of names

Names change their spelling between the declared types and the generated code.

* `camelCase` — `FOOBar` becomes `fooBar`.
* `splitWords` — `XMLFile` becomes `XML File`.
* `domainFolder` — `GROUP` becomes `Group`.
* `constantMember` — `PERSON_ALIAS` becomes `PersonAlias`.
* `withoutArity` — a generic name without the mark and number of its type parameters.
-/

namespace TypeExport.Name

open TypeExport.Text

/-- The characters behind a lowered first capital.  A run of capitals is lowered up to its last
one, which starts the next word and stays, unless a blank or nothing follows the run. -/
def lowerRun : List Char → List Char
  | [] => []
  | [c] => if isUpper c then lowerChar c else [c]
  | c :: next :: rest =>
    if !isUpper c then c :: next :: rest
    else if isUpper next then lowerChar c ++ lowerRun (next :: rest)
    else if isBlank next then lowerChar c ++ next :: rest
    else c :: next :: rest

/-- Lower the leading run of capitals, as `camelCase` on characters. -/
def camelCaseChars : List Char → List Char
  | [] => []
  | c :: rest => if isUpper c then lowerChar c ++ lowerRun rest else c :: rest

/-- A capitalised name with its leading run of capitals in lower case, keeping the capital that
starts the next word. -/
def camelCase (name : String) : String :=
  .ofList (camelCaseChars name.toList)

/-- One of the letters `a` to `z`. -/
def isSmallLetter (c : Char) : Bool :=
  decide ('a' ≤ c) && decide (c ≤ 'z')

/-- An acronym ends before a word: two characters that are no small letters, then one that is. -/
def acronymEnd : List Char → Option Found
  | a :: b :: c :: _ =>
    if !isSmallLetter a && !isSmallLetter b && isSmallLetter c then some ⟨3, [a, ' ', b, c]⟩
    else none
  | _ => none

/-- A word ends: a small letter, then a character that is none. -/
def wordEnd : List Char → Option Found
  | a :: b :: _ => if isSmallLetter a && !isSmallLetter b then some ⟨2, [a, ' ', b]⟩ else none
  | _ => none

/-- The words of a name, as `splitWords` on characters. -/
def splitWordsChars (name : List Char) : List Char :=
  substitute wordEnd (substitute acronymEnd name)

/-- A name with a space between its words. -/
def splitWords (name : String) : String :=
  .ofList (splitWordsChars name.toList)

/-- The folder of an enumeration domain on characters. -/
def domainFolderChars (domain : List Char) : List Char :=
  if domain ≠ upper domain then domain
  else if domain.length = 2 then domain
  else upper (domain.take 1) ++ lower (domain.drop 1)

/-- The folder of an enumeration domain.  A domain in capitals is capitalised unless it has two
letters; any other stays as it is. -/
def domainFolder (domain : String) : String :=
  .ofList (domainFolderChars domain.toList)

/-- The rest of a constant's name; `atStart` says that a word starts here.  An underscore that
would start a word stands for itself. -/
def constantMemberChars (atStart : Bool) : List Char → List Char
  | [] => []
  | c :: rest =>
    if atStart then upperChar c ++ constantMemberChars false rest
    else if c = '_' then constantMemberChars true rest
    else lowerChar c ++ constantMemberChars false rest

/-- The member name of a constant whose words are joined by underscores. -/
def constantMember (name : String) : String :=
  .ofList (constantMemberChars true name.toList)

/-- The mark between a generic name and the number of its type parameters. -/
def arityMark : Char := '\x60'

/-- A name without the number of its type parameters. -/
def withoutArity (name : String) : String :=
  .ofList (name.toList.takeWhile (· ≠ arityMark))

end TypeExport.Name
