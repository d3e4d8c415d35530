import TypeExport.Proofs.Text.Lines
import TypeExport.Proofs.TypeScript.Scanning

/-!
# The tables of generated code

How statements of generated code are read: tables with their entries, and names of types.  A comma
stands between the entries of a table, perhaps with another one behind the last, and a semicolon
behind every statement.

* `Numeral`, `Key`, `Literal`, `Entry` — an entry of a table, with the comments in front of it.
* `Table`, `Statement` — what stands in a text.
* `numeral?`, `key?`, `literal?`, `entry?`, `statement?`, `statements?` — reading them.
* `numeral?_decimalTokens`, `key?_keyTokens` — numbers are read back.
* `entry?_entryTokens`, `statement?_tableTokens`, `statements?_eq` — entries, tables and whole texts
  are read back.
-/

namespace TypeExport.TypeScript

/-! ### Statements -/

/-- A number as it is written. -/
inductive Numeral where
  | decimal (value : Int)
  /-- Hexadecimal, with the count of digits. -/
  | hexadecimal (digits value : Nat)
deriving DecidableEq, Repr

/-- The number that is written. -/
def Numeral.number : Numeral → Int
  | decimal value => value
  | hexadecimal _ value => value

/-- What an entry is found under. -/
inductive Key where
  | name (name : String)
  | number (numeral : Numeral)
deriving DecidableEq, Repr

/-- What an entry holds. -/
inductive Literal where
  | number (numeral : Numeral)
  | text (value : String)
deriving DecidableEq, Repr

/-- An entry of a table. -/
structure Entry where
  /-- The comments in front of it. -/
  comments : List String := []
  key : Key
  value : Literal
deriving DecidableEq, Repr

/-- A table. -/
structure Table where
  /-- The comments in front of it. -/
  comments : List String := []
  name : String
  /-- Its type, if one is given. -/
  type : List Token := []
  entries : List Entry
  /-- It may not be changed. -/
  isConstant : Bool := false
deriving DecidableEq, Repr

/-- A table, or a name for a type. -/
inductive Statement where
  | table (table : Table)
  | typeName (comments : List String) (name : String) (type : List Token)
deriving DecidableEq, Repr

/-! ### Reading -/

/-- The number that a word denotes.  A further digit behind a zero is not allowed. -/
def wordNumeral? (word : String) : Option Numeral :=
  match word.toList with
  | '0' :: 'x' :: digits => (Text.number? 16 digits).map (.hexadecimal digits.length)
  | '0' :: _ :: _ => none
  | digits => (Text.number? 10 digits).map fun value => .decimal value

/-- The number that some tokens denote. -/
def numeral? : List Token → Option Numeral
  | [.word word] => wordNumeral? word
  | [.mark '-', .word word] =>
    match wordNumeral? word with
    | some (.decimal value) => some (.decimal (-value))
    | _ => none
  | _ => none

/-- What an entry holds: a text or a number. -/
def literal? : List Token → Option Literal
  | [.text value] => some (.text value)
  | tokens => (numeral? tokens).map .number

/-- What an entry is found under: a name, a number, or a number in brackets, which may be any. -/
def key? : List Token → Option Key
  | [.word word] =>
    if word.toList.head?.any Char.isDigit then (wordNumeral? word).map .number
    else some (.name word)
  | .mark '[' :: rest =>
    if rest.getLast? = some (.mark ']') then (numeral? rest.dropLast).map .number else none
  | _ => none

/-- The comments in front of some tokens, and the tokens behind them. -/
def takeComments : List Token → List String × List Token
  | .comment text :: rest =>
    let (comments, behind) := takeComments rest
    (text :: comments, behind)
  | tokens => ([], tokens)

/-- What stands before the first occurrence of a mark, and what stands behind it. -/
def cutAt? (mark : Char) : List Token → Option (List Token × List Token)
  | [] => none
  | token :: rest =>
    if token = .mark mark then some ([], rest)
    else (cutAt? mark rest).map fun (before, behind) => (token :: before, behind)

/-- An entry of a table. -/
def entry? (tokens : List Token) : Option Entry := do
  let (comments, rest) := takeComments tokens
  let (key, value) ← cutAt? ':' rest
  return { comments, key := ← key? key, value := ← literal? value }

/-- The parts between commas, or between other marks; nothing has to stand behind the last mark. -/
def parts (mark : Char) (tokens : List Token) : List (List Token) :=
  let parts := tokens.splitOn (.mark mark)
  if parts.getLast? = some [] then parts.dropLast else parts

/-- A table, behind its comments and its first words. -/
def table? (comments : List String) (name : String) (tokens : List Token) : Option Table := do
  let (type, value) ← cutAt? '=' tokens
  match value with
  | .mark '\x7b' :: rest =>
    let (inside, behind) ← cutAt? '\x7d' rest
    let entries ← (parts ',' inside).mapM entry?
    if behind = [] then return { comments, name, type, entries }
    else if behind = [.word "as", .word "const"] then
      return { comments, name, type, entries, isConstant := true }
    else none
  | _ => none

/-- A statement without its semicolon. -/
def statement? (tokens : List Token) : Option Statement :=
  let (comments, rest) := takeComments tokens
  match rest with
  | .word "export" :: .word "const" :: .word name :: rest =>
    (table? comments name rest).map .table
  | .word "export" :: .word "type" :: .word name :: .mark '=' :: type =>
    some (.typeName comments name type)
  | _ => none

/-- The statements of a text, each with its semicolon. -/
def statements? (text : String) : Option (List Statement) := do
  let tokens ← scan? text
  if tokens.getLast?.all (· = .mark ';') then (parts ';' tokens).mapM statement? else none

/-! ### Numbers that are read back -/

/-- The tokens of a number that is written in decimal digits. -/
def decimalTokens (value : Int) : List Token :=
  if value < 0 then [.mark '-', .word (toString value.natAbs)] else [.word (toString value.natAbs)]

/-- A natural number is written by its decimal digits. -/
theorem toList_toString (value : Nat) :
    (toString value).toList = Nat.toDigits 10 value := by
  rw [Nat.toString_eq_ofList_toDigits, String.toList_ofList]

/-- A negative number is written by a minus before its amount. -/
theorem toString_eq (value : Int) :
    toString value
      = if value < 0 then "-" ++ toString value.natAbs else toString value.natAbs := by
  cases value with
  | ofNat value => rfl
  | negSucc value =>
    rw [if_pos (Int.negSucc_lt_zero value)]
    rfl

/-- Digits are characters of words. -/
theorem isIdentifierChar_digitChar :
    ∀ digit < 16, isIdentifierChar digit.digitChar ∧ isIdentifierChar digit.digitChar.toUpper := by
  decide

/-- A natural number is scanned as one word. -/
theorem scan?_toString_nat (value : Nat) :
    scan? (toString value) = some [.word (toString value)] := by
  refine scan?_word ?_ fun c hc => ?_ <;> rw [toList_toString] at *
  · exact Nat.toDigits_ne_nil
  obtain ⟨digit, hdigit, rfl⟩ := Text.exists_digit_of_mem_toDigits (by omega) hc
  exact (isIdentifierChar_digitChar digit (by omega)).1

/-- A number is scanned as its sign and its digits. -/
theorem scan?_toString (value : Int) : scan? (toString value) = some (decimalTokens value) := by
  rw [toString_eq, decimalTokens]
  by_cases hnegative : value < 0
  · have hsign : Scans "-" [.mark '-'] := by decide
    rw [if_pos hnegative, if_pos hnegative, scan?_append_of_scans hsign, scan?_toString_nat]
    rfl
  · rw [if_neg hnegative, if_neg hnegative]
    exact scan?_toString_nat value.natAbs

/-- The digits of a number are read as the number. -/
theorem wordNumeral?_toString (value : Nat) :
    wordNumeral? (toString value) = some (.decimal value) := by
  by_cases hzero : value = 0
  · subst hzero
    rfl
  -- A zero in front would make it a numeral of another base.
  · have hhead := Text.head?_decimal_ne_zero hzero
    unfold wordNumeral?
    rw [toList_toString]
    split
    · next digits hdigits => simp [hdigits] at hhead
    · next c digits _ hdigits => simp [hdigits] at hhead
    · rw [Text.number?_decimal]
      rfl

/-- **Decimal numbers** are read back. -/
theorem numeral?_decimalTokens (value : Int) :
    numeral? (decimalTokens value) = some (.decimal value) := by
  unfold decimalTokens
  by_cases hnegative : value < 0
  · rw [if_pos hnegative]
    have habs : -(value.natAbs : Int) = value := by omega
    simp only [numeral?, wordNumeral?_toString, habs]
  · rw [if_neg hnegative]
    have habs : (value.natAbs : Int) = value := by omega
    simp only [numeral?, wordNumeral?_toString, habs]

/-- The tokens of a number that entries are found under. -/
def keyTokens (value : Int) : List Token :=
  if value < 0 then .mark '[' :: (decimalTokens value ++ [.mark ']']) else decimalTokens value

/-- A key is scanned as its digits, between brackets if it is negative. -/
theorem scan?_bracketed (value : Int) :
    scan? (if value < 0 then "[" ++ toString value ++ "]" else toString value)
      = some (keyTokens value) := by
  unfold keyTokens
  by_cases hnegative : value < 0
  · have hopen : Scans "[" [.mark '['] := by decide
    have hclose : Separates "]" [.mark ']'] := by decide
    rw [if_pos hnegative, if_pos hnegative, String.append_assoc, scan?_append_of_scans hopen,
      hclose.scan?_last (scan?_toString value)]
    rfl
  · rw [if_neg hnegative, if_neg hnegative]
    exact scan?_toString value

/-- Any number is read back as what an entry is found under. -/
theorem key?_keyTokens (value : Int) :
    key? (keyTokens value) = some (.number (.decimal value)) := by
  unfold keyTokens
  by_cases hnegative : value < 0
  · rw [if_pos hnegative]
    simp [key?, numeral?_decimalTokens]
  · have hnumeral := numeral?_decimalTokens value
    unfold decimalTokens at hnumeral ⊢
    rw [if_neg hnegative] at hnumeral ⊢
    rw [if_neg hnegative]
    -- A numeral is told from a name by its first character.
    have hdigit : (toString value.natAbs).toList.head?.any Char.isDigit = true := by
      rw [toList_toString]
      cases hdigits : Nat.toDigits 10 value.natAbs with
      | nil => exact absurd hdigits Nat.toDigits_ne_nil
      | cons c rest =>
        refine Nat.isDigit_of_mem_toDigits (b := 10) (n := value.natAbs) (by omega) (by omega) ?_
        rw [hdigits]
        exact List.mem_cons_self
    rw [key?, if_pos hdigit]
    rw [numeral?] at hnumeral
    rw [hnumeral]
    rfl

/-- An identifier is a key that names a member. -/
theorem key?_identifier {name : String} (h : IsIdentifier name) :
    key? [.word name] = some (.name name) := by
  rw [key?, if_neg]
  rw [h.head_not_digit]
  exact Bool.false_ne_true

/-- A number is a literal. -/
theorem literal?_decimalTokens (value : Int) :
    literal? (decimalTokens value) = some (.number (.decimal value)) := by
  have hnumeral := numeral?_decimalTokens value
  unfold decimalTokens at hnumeral ⊢
  by_cases hnegative : value < 0
  · rw [if_pos hnegative] at hnumeral ⊢
    simp only [literal?, hnumeral, Option.map_some]
  · rw [if_neg hnegative] at hnumeral ⊢
    simp only [literal?, hnumeral, Option.map_some]

/-! ### Statements that are read back -/

/-- The comments before a token that is none are taken. -/
theorem takeComments_append (comments : List String) {rest : List Token}
    (h : ∀ text, rest.head? ≠ some (.comment text)) :
    takeComments (comments.map .comment ++ rest) = (comments, rest) := by
  induction comments with
  | nil =>
    cases rest with
    | nil => rfl
    | cons token rest =>
      cases token with
      | comment text => exact absurd rfl (h text)
      | word | text | mark => rfl
  | cons text comments ih => simp [takeComments, ih]

/-- Tokens are cut at the first mark. -/
theorem cutAt?_append {mark : Char} {before : List Token} (h : .mark mark ∉ before)
    (behind : List Token) :
    cutAt? mark (before ++ .mark mark :: behind) = some (before, behind) := by
  induction before with
  | nil => simp [cutAt?]
  | cons token before ih =>
    rw [List.mem_cons, not_or] at h
    obtain ⟨htoken, hbefore⟩ := h
    simp [cutAt?, Ne.symm htoken, ih hbefore]

/-- The tokens of an entry. -/
def entryTokens (comments : List String) (key value : List Token) : List Token :=
  comments.map .comment ++ (key ++ .mark ':' :: value)

/-- **Entries** are read back. -/
theorem entry?_entryTokens {comments : List String} {key value : List Token} {under : Key}
    {holds : Literal} (hkey : key? key = some under) (hvalue : literal? value = some holds)
    (hcolon : .mark ':' ∉ key) :
    entry? (entryTokens comments key value) = some ⟨comments, under, holds⟩ := by
  have hhead : ∀ text, (key ++ .mark ':' :: value).head? ≠ some (.comment text) := by
    intro text hhead
    cases key with
    | nil => cases hhead
    | cons token rest =>
      obtain rfl : token = .comment text := Option.some.inj hhead
      cases hkey
  unfold entry? entryTokens
  simp [takeComments_append comments hhead, cutAt?_append hcolon, hkey, hvalue]

/-- Parts that are not empty, with a mark between them. -/
theorem parts_intercalate {mark : Char} {items : List (List Token)}
    (h : ∀ item ∈ items, item ≠ [] ∧ .mark mark ∉ item) :
    parts mark ([.mark mark].intercalate items) = items := by
  cases items with
  | nil => rfl
  | cons first items =>
    have hsplit : ([Token.mark mark].intercalate (first :: items)).splitOn (.mark mark)
        = first :: items :=
      List.splitOn_intercalate _ (fun item hitem => (h item hitem).2) (List.cons_ne_nil _ _)
    have hlast : (first :: items).getLast? ≠ some [] := fun hlast =>
      (h _ (List.mem_of_getLast? hlast)).1 rfl
    simp only [parts, hsplit, hlast, if_false]

/-- Parts with a mark behind each of them. -/
theorem parts_ended {mark : Char} {items : List (List Token)}
    (h : ∀ item ∈ items, .mark mark ∉ item) :
    parts mark (items.flatMap (· ++ [.mark mark])) = items := by
  simp [parts, Text.splitOn_ended h]

/-- The tokens of a table, with those that stand between its braces. -/
def tableTokens (comments : List String) (name : String) (type inside : List Token)
    (isConstant : Bool) : List Token :=
  comments.map .comment ++ .word "export" :: .word "const" :: .word name ::
    (type ++ .mark '=' :: .mark '\x7b' :: (inside ++ .mark '\x7d' ::
      if isConstant then [.word "as", .word "const"] else []))

/-- The tokens of a name for a type. -/
def typeNameTokens (comments : List String) (name : String) (type : List Token) : List Token :=
  comments.map .comment ++ .word "export" :: .word "type" :: .word name :: .mark '=' :: type

/-- **Tables** are read back. -/
theorem statement?_tableTokens {type inside : List Token} {entries : List Entry}
    (comments : List String) (name : String) (isConstant : Bool) (htype : .mark '=' ∉ type)
    (hinside : .mark '\x7d' ∉ inside) (hentries : (parts ',' inside).mapM entry? = some entries) :
    statement? (tableTokens comments name type inside isConstant)
      = some (.table { comments, name, type, entries, isConstant }) := by
  rw [statement?, tableTokens, takeComments_append comments (by simp)]
  cases isConstant <;>
    simp [table?, cutAt?_append htype, cutAt?_append hinside, hentries]

/-- The tokens of a type name are the statement that declares it. -/
theorem statement?_typeNameTokens (comments : List String) (name : String) (type : List Token) :
    statement? (typeNameTokens comments name type) = some (.typeName comments name type) := by
  rw [statement?, typeNameTokens, takeComments_append comments (by simp)]
  rfl

/-- A table has no semicolon inside if its type and its entries have none. -/
theorem mark_notMem_tableTokens {type inside : List Token} (comments : List String) (name : String)
    (isConstant : Bool) (htype : .mark ';' ∉ type) (hinside : .mark ';' ∉ inside) :
    .mark ';' ∉ tableTokens comments name type inside isConstant := by
  cases isConstant <;> simp [tableTokens, htype, hinside]

/-- **Texts** are read back statement by statement. -/
theorem statements?_eq {text : String} {items : List (List Token)} {statements : List Statement}
    (hscan : scan? text = some (items.flatMap (· ++ [.mark ';'])))
    (hitems : ∀ item ∈ items, .mark ';' ∉ item)
    (hstatements : items.mapM statement? = some statements) :
    statements? text = some statements := by
  have hlast : (items.flatMap (· ++ [Token.mark ';'])).getLast?.all (· = .mark ';') = true := by
    obtain rfl | ⟨front, item, rfl⟩ := List.eq_nil_or_concat' items
    · rfl
    · simp
  simp [statements?, hscan, hlast, parts_ended hitems, hstatements]

end TypeExport.TypeScript
