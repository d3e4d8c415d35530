import TypeExport.Text.Blank
import TypeExport.Proofs.Text.Digits
import TypeExport.Proofs.Outcome

/-!
# The words of generated code

How the text of a TypeScript declaration falls into words, texts between quotes, comments and marks.
One character is read after the other, so a text may be cut wherever nothing is left open.

* `Token` — a word, a text, a comment or a mark.
* `State`, `step`, `run` — what is open while a text is read, one character and several of them.
* `scan?` — the tokens of a text.
* `Scans` — a text consists of some tokens whatever stands behind it.
* `scan?_append`, `scan?_append_of_scans` — where a text can be cut.
* `Separates` — a text in front of which, and behind which, a text can be cut.
* `scan?_word`, `scans_comment`, `scans_doubleQuoted` — what words, comments and quoted texts are.
-/

namespace TypeExport.TypeScript

/-! ### Reading one character after the other -/

/-- A part of a text with a meaning of its own.  Numbers are words that begin with a digit. -/
inductive Token where
  | word (text : String)
  /-- A text between quotes, without its escapes. -/
  | text (value : String)
  | comment (text : String)
  | mark (mark : Char)
deriving DecidableEq, Repr

/-- Characters of identifiers and numbers.  Beyond ASCII everything but a blank may be one. -/
def isIdentifierChar (c : Char) : Bool :=
  c.isAlphanum || c == '_' || c == '$' || (decide (0x80 ≤ c.toNat) && !Text.isBlank c)

/-- What is open behind the beginning of a text, with what has been read of it. -/
inductive State where
  | between
  | word (read : List Char)
  /-- Behind the slash that begins a comment. -/
  | slash
  | comment (read : List Char)
  | text (read : List Char)
  /-- Behind a backslash in a text. -/
  | escape (read : List Char)
  /-- Behind some digits of the code of a character in a text. -/
  | code (read digits : List Char)
deriving DecidableEq, Repr

/-- A character where nothing is open. -/
def start (c : Char) : Option (List Token × State) :=
  if isIdentifierChar c then some ([], .word [c])
  else if Text.isBlank c then some ([], .between)
  else if c = '"' then some ([], .text [])
  else if c = '/' then some ([], .slash)
  else some ([.mark c], .between)

/-- The character that a letter stands for behind a backslash. -/
def escaped? : Char → Option Char
  | '"' => some '"'
  | '\\' => some '\\'
  | '/' => some '/'
  | 'b' => some '\x08'
  | 'f' => some '\x0c'
  | 'n' => some '\n'
  | 'r' => some '\r'
  | 't' => some '\t'
  | _ => none

/-- The character whose code has some hexadecimal digits. -/
def charOfCode? (digits : List Char) : Option Char :=
  (Text.number? 16 digits).bind fun code =>
    if code.isValidChar then some (Char.ofNat code) else none

/-- One character: the tokens that it completes, and what is open behind it. -/
def step : State → Char → Option (List Token × State)
  | .between, c => start c
  | .word read, c =>
    if isIdentifierChar c then some ([], .word (read ++ [c]))
    else (start c).map fun (tokens, next) => (.word (.ofList read) :: tokens, next)
  | .slash, c => if c = '*' then some ([], .comment []) else none
  | .comment read, c =>
    if c = '/' ∧ read.getLast? = some '*' then
      some ([.comment (.ofList read.dropLast)], .between)
    else some ([], .comment (read ++ [c]))
  | .text read, c =>
    if c = '"' then some ([.text (.ofList read)], .between)
    else if c = '\\' then some ([], .escape read)
    else if c.toNat < 0x20 then none
    else some ([], .text (read ++ [c]))
  | .escape read, c =>
    if c = 'u' then some ([], .code read [])
    else (escaped? c).map fun value => ([], .text (read ++ [value]))
  | .code read digits, c =>
    if digits.length < 3 then some ([], .code read (digits ++ [c]))
    else (charOfCode? (digits ++ [c])).map fun value => ([], .text (read ++ [value]))

/-- Several characters. -/
def run : State → List Char → Option (List Token × State)
  | state, [] => some ([], state)
  | state, c :: rest =>
    (step state c).bind fun (tokens, next) =>
      (run next rest).map fun (others, last) => (tokens ++ others, last)

/-- The tokens that the end of the text completes. -/
def State.pending? : State → Option (List Token)
  | .between => some []
  | .word read => some [.word (.ofList read)]
  | _ => none

/-- The tokens of a text behind what is open. -/
def scanFrom? (state : State) (text : List Char) : Option (List Token) :=
  (run state text).bind fun (tokens, last) => last.pending?.map (tokens ++ ·)

/-- The tokens of a text. -/
def scan? (text : String) : Option (List Token) :=
  scanFrom? .between text.toList

/-- A text consists of the tokens, and nothing is open behind it. -/
def Scans (text : String) (tokens : List Token) : Prop :=
  run .between text.toList = some (tokens, .between)

instance (text : String) (tokens : List Token) : Decidable (Scans text tokens) :=
  inferInstanceAs (Decidable (run .between text.toList = some (tokens, .between)))

/-- A text goes on with a character of a word. -/
def continuesWord (text : String) : Bool :=
  text.toList.head?.any isIdentifierChar

/-! ### Cutting texts -/

/-- A text is run through first, and from where that stopped the rest. -/
theorem run_append (state : State) (text rest : List Char) :
    run state (text ++ rest) = (run state text).bind fun (tokens, next) =>
      (run next rest).map fun (others, last) => (tokens ++ others, last) := by
  induction text generalizing state with
  | nil => simp [run]
  | cons c text ih =>
    rw [List.cons_append, run, run]
    -- A text that cannot be read stops the run of both sides in the same place.
    cases step state c with
    | none => rfl
    | some result =>
      obtain ⟨tokens, next⟩ := result
      simp only [Option.bind_some, ih]
      cases run next text with
      | none => rfl
      | some behind => simp [Function.comp_def]

/-- The tokens of a text come before those of the rest. -/
theorem scanFrom?_append {state next : State} {text : List Char} {tokens : List Token}
    (h : run state text = some (tokens, next)) (rest : List Char) :
    scanFrom? state (text ++ rest) = (scanFrom? next rest).map (tokens ++ ·) := by
  simp only [scanFrom?, run_append, h, Option.bind_some]
  cases run next rest with
  | none => rfl
  | some result =>
    obtain ⟨others, last⟩ := result
    cases hpending : last.pending? <;> simp [hpending]

/-- A text can be cut where nothing is open. -/
theorem scan?_append_of_scans {text : String} {tokens : List Token} (h : Scans text tokens)
    (rest : String) : scan? (text ++ rest) = (scan? rest).map (tokens ++ ·) := by
  unfold scan?
  rw [String.toList_append]
  exact scanFrom?_append h rest.toList

/-- A text that is scanned in itself has its tokens alone, too. -/
theorem Scans.scan?_eq {text : String} {tokens : List Token} (h : Scans text tokens) :
    TypeScript.scan? text = some tokens := by
  unfold Scans at h
  simp [TypeScript.scan?, scanFrom?, h, State.pending?]

/-- Two texts that are scanned in themselves are so one behind the other. -/
theorem Scans.append {text rest : String} {tokens others : List Token} (h : Scans text tokens)
    (hrest : Scans rest others) : Scans (text ++ rest) (tokens ++ others) := by
  unfold Scans at h hrest ⊢
  rw [String.toList_append, run_append, h, Option.bind_some]
  simp only [hrest, Option.map_some]

/-- Blanks are no tokens. -/
theorem scans_blanks {text : String} (h : ∀ c ∈ text.toList, start c = some ([], .between)) :
    Scans text [] := by
  unfold Scans
  generalize text.toList = chars at h
  induction chars with
  | nil => rfl
  | cons c chars ih =>
    obtain ⟨hc, hchars⟩ := List.forall_mem_cons.mp h
    simp [run, step, hc, ih hchars]

/-- A word ends in front of a character that belongs to no word. -/
theorem scanFrom?_word {read rest : List Char}
    (hrest : rest.head?.any isIdentifierChar = false) :
    scanFrom? (.word read) rest = (scanFrom? .between rest).map (.word (.ofList read) :: ·) := by
  cases rest with
  | nil => rfl
  | cons c rest =>
    have hc : isIdentifierChar c = false := hrest
    simp only [scanFrom?, run, step, hc, Bool.false_eq_true, if_false]
    -- The character that ends the word is read as it would be behind none.
    cases start c with
    | none => rfl
    | some result =>
      obtain ⟨tokens, next⟩ := result
      simp only [Option.map_some, Option.bind_some]
      cases run next rest with
      | none => rfl
      | some behind =>
        obtain ⟨others, last⟩ := behind
        cases hpending : last.pending? <;> simp [hpending]

/-- **Cutting.** A text can be cut in front of a character that belongs to no word. -/
theorem scan?_append {text rest : String} {tokens : List Token} (h : scan? text = some tokens)
    (hrest : continuesWord rest = false) :
    scan? (text ++ rest) = (scan? rest).map (tokens ++ ·) := by
  unfold scan? at h ⊢
  rw [String.toList_append]
  obtain ⟨⟨before, state⟩, hrun, hpending⟩ := Option.bind_eq_some_iff.mp h
  rw [scanFrom?_append hrun]
  -- Only a word may be open where a text ends, and what follows does not go on with it.
  cases state with
  | between =>
    have htokens : before ++ [] = tokens := Option.some.inj hpending
    rw [← htokens, List.append_nil]
  | word read =>
    have htokens : before ++ [.word (.ofList read)] = tokens := Option.some.inj hpending
    rw [scanFrom?_word hrest, ← htokens]
    cases scanFrom? .between rest.toList <;> simp
  | slash | comment | text | escape | code => cases hpending

/-- Whether a text continues a word is decided by its first character. -/
theorem continuesWord_append {text : String} (h : text.toList ≠ []) (rest : String) :
    continuesWord (text ++ rest) = continuesWord text := by
  unfold continuesWord
  rw [String.toList_append, List.head?_append_of_ne_nil _ h]

/-- A text that ends the word in front of it, if there is one. -/
structure Separates (text : String) (tokens : List Token) : Prop where
  scans : Scans text tokens
  nonempty : text.toList ≠ []
  endsWord : continuesWord text = false

instance (text : String) (tokens : List Token) : Decidable (Separates text tokens) :=
  decidable_of_iff (Scans text tokens ∧ text.toList ≠ [] ∧ continuesWord text = false) ⟨
    fun h => ⟨h.1, h.2.1, h.2.2⟩, fun h => ⟨h.scans, h.nonempty, h.endsWord⟩⟩

namespace Separates

variable {before text : String} {tokens others : List Token}

/-- A text that separates words adds its tokens between those of the two sides. -/
theorem scan?_append (h : Separates text others) (hbefore : scan? before = some tokens)
    (rest : String) :
    scan? (before ++ (text ++ rest)) = (scan? rest).map (tokens ++ others ++ ·) := by
  have hends : continuesWord (text ++ rest) = false := by
    rw [continuesWord_append h.nonempty, h.endsWord]
  rw [TypeScript.scan?_append hbefore hends, scan?_append_of_scans h.scans, Option.map_map]
  simp only [Function.comp_def, List.append_assoc]

/-- A text that separates words adds its tokens at the end. -/
theorem scan?_last (h : Separates text others) (hbefore : scan? before = some tokens) :
    scan? (before ++ text) = some (tokens ++ others) := by
  rw [TypeScript.scan?_append hbefore h.endsWord, h.scans.scan?_eq, Option.map_some]

end Separates

/-! ### Words -/

/-- An identifier: characters of identifiers, of which the first is no digit. -/
def IsIdentifier (name : String) : Prop :=
  name.toList.all isIdentifierChar ∧ name.toList.head?.any (fun c => !c.isDigit)

instance (name : String) : Decidable (IsIdentifier name) :=
  inferInstanceAs (Decidable (_ ∧ _))

/-- Inside a word, identifier characters are read into it. -/
theorem run_word (read : List Char) {text : List Char} (h : ∀ c ∈ text, isIdentifierChar c) :
    run (.word read) text = some ([], .word (read ++ text)) := by
  induction text generalizing read with
  | nil => simp [run]
  | cons c text ih =>
    obtain ⟨hc, htext⟩ := List.forall_mem_cons.mp h
    simp [run, step, hc, ih (read ++ [c]) htext]

/-- Characters of identifiers are one word. -/
theorem scan?_word {text : String} (hne : text.toList ≠ [])
    (h : ∀ c ∈ text.toList, isIdentifierChar c) : scan? text = some [.word text] := by
  cases hchars : text.toList with
  | nil => exact absurd hchars hne
  | cons c rest =>
    rw [hchars] at h
    obtain ⟨hc, hrest⟩ := List.forall_mem_cons.mp h
    have htext : String.ofList (c :: rest) = text := by rw [← hchars, String.ofList_toList]
    simp [scan?, scanFrom?, hchars, run, step, start, hc, run_word [c] hrest, State.pending?, htext]

/-- An identifier does not begin with a digit. -/
theorem IsIdentifier.head_not_digit {name : String} (h : IsIdentifier name) :
    name.toList.head?.any Char.isDigit = false := by
  obtain ⟨-, hhead⟩ := h
  cases hchars : name.toList with
  | nil => rfl
  | cons c rest => simpa [hchars] using hhead

/-- An identifier is scanned as one word. -/
theorem scan?_identifier {name : String} (h : IsIdentifier name) :
    scan? name = some [.word name] := by
  refine scan?_word (fun hnil => ?_) (List.all_eq_true.mp h.1)
  have hhead := h.2
  rw [hnil] at hhead
  cases hhead

/-- An identifier stays one if identifier characters follow it. -/
theorem IsIdentifier.append {name ending : String} (hname : IsIdentifier name)
    (hending : ending.toList.all isIdentifierChar) : IsIdentifier (name ++ ending) := by
  obtain ⟨hchars, hhead⟩ := hname
  unfold IsIdentifier
  rw [String.toList_append]
  constructor
  · rw [List.all_append, hchars, hending]
    rfl
  · cases hfirst : name.toList with
    | nil => simp [hfirst] at hhead
    | cons c rest => simpa [hfirst] using hhead

/-! ### Comments -/

/-- Inside a comment, what does not close it is read into it. -/
theorem run_comment (read : List Char) {text : List Char}
    (h : ¬ ['*', '/'] <:+: read ++ text) :
    run (.comment read) text = some ([], .comment (read ++ text)) := by
  induction text generalizing read with
  | nil => simp [run]
  | cons c text ih =>
    have hopen : ¬ (c = '/' ∧ read.getLast? = some '*') := by
      rintro ⟨rfl, hlast⟩
      obtain ⟨front, rfl⟩ := List.getLast?_eq_some_iff.mp hlast
      exact h ⟨front, text, by simp⟩
    have hrest : ¬ ['*', '/'] <:+: (read ++ [c]) ++ text := by simpa using h
    simp [run, step, hopen, ih (read ++ [c]) hrest]

/-- **Comments.** A comment ends at the first mark that may end it. -/
theorem scans_comment {text : String} (h : ¬ ['*', '/'] <:+: text.toList) :
    Scans ("/*" ++ text ++ "*/") [.comment text] := by
  have hopen : run .between ['/', '*'] = some ([], .comment []) := by rfl
  have hclose : run (.comment text.toList) ['*', '/'] = some ([.comment text], .between) := by
    simp [run, step]
  have hinside : run (.comment []) text.toList = some ([], .comment text.toList) :=
    run_comment [] h
  unfold Scans
  simp only [String.toList_append]
  rw [show "/*".toList = ['/', '*'] from rfl, show "*/".toList = ['*', '/'] from rfl,
    List.append_assoc, run_append, hopen]
  simp [run_append, hinside, hclose]

/-! ### Texts between quotes -/

/-- Four digits of a code give its character to the text. -/
theorem run_code (read : List Char) {digits : List Char} (hlength : digits.length = 4)
    {c : Char} (h : charOfCode? digits = some c) :
    run (.code read []) digits = some ([], .text (read ++ [c])) := by
  match digits, hlength with
  | [a, b, d, e], _ => simp [run, step, h]

/-- The digits of a character give the character back. -/
theorem charOfCode?_hexadecimal (width : Nat) (c : Char) :
    charOfCode? (Text.hexadecimal width c.toNat) = some c := by
  have hvalid : c.toNat.isValidChar := c.valid
  simp [charOfCode?, Text.number?_hexadecimal, hvalid]

/-- A character that may have been escaped is read back. -/
theorem run_doubleQuotedChar (read : List Char) (c : Char) :
    run (.text read) (Text.doubleQuotedChar c) = some ([], .text (read ++ [c])) := by
  unfold Text.doubleQuotedChar
  by_cases hquote : c = '"'
  · subst hquote
    rfl
  by_cases hbackslash : c = '\\'
  · subst hbackslash
    rfl
  by_cases hline : c = '\n'
  · subst hline
    rfl
  by_cases hreturn : c = '\r'
  · subst hreturn
    rfl
  by_cases htab : c = '\t'
  · subst htab
    rfl
  by_cases hbackspace : c = '\x08'
  · subst hbackspace
    rfl
  by_cases hfeed : c = '\x0c'
  · subst hfeed
    rfl
  simp only [hquote, hbackslash, hline, hreturn, htab, hbackspace, hfeed, if_false]
  by_cases hcontrol : c.toNat < 0x20
  · -- The other controls are written by the four digits of their codes.
    have hlength : (Text.hexadecimal 4 c.toNat).length = 4 :=
      Text.length_hexadecimal_of_lt (by omega) (by omega)
    have hcode := run_code read hlength (charOfCode?_hexadecimal 4 c)
    rw [if_pos hcontrol]
    simp [run, step, hcode]
  · rw [if_neg hcontrol]
    simp [run, step, hquote, hbackslash, hcontrol]

/-- The escaped characters of a text are read back into it. -/
theorem run_doubleQuotedChars (read text : List Char) :
    run (.text read) (text.flatMap Text.doubleQuotedChar) = some ([], .text (read ++ text)) := by
  induction text generalizing read with
  | nil => simp [run]
  | cons c text ih =>
    rw [List.flatMap_cons, run_append, run_doubleQuotedChar]
    simp [ih]

/-- **Texts.** A text between quotes is read back, whatever characters it consists of. -/
theorem scans_doubleQuoted (text : String) : Scans (Text.doubleQuoted text) [.text text] := by
  have hopen : run .between ['"'] = some ([], .text []) := by rfl
  have hclose : run (.text text.toList) ['"'] = some ([.text text], .between) := by
    simp [run, step]
  unfold Scans Text.doubleQuoted
  rw [String.toList_ofList, List.append_assoc, run_append, hopen]
  simp [run_append, run_doubleQuotedChars, hclose]

end TypeExport.TypeScript
