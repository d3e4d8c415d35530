import TypeExport.Proofs.Enumeration.Numbers
import TypeExport.Proofs.Text.Searching

/-!
# What is declared for an enumeration

The declarations of an enumeration are read back as TypeScript.  The table of values has all fields
in their order, the table of descriptions all members that keep a description, and no name, number,
mark or text is lost between them.

* `Marker.reason`, `obsoleteReasons`, `StaysInComment` — why something is obsolete, as its markers
  say it, and when that can stand in a comment.
* `obsoleteReason?` — the reason that a comment gives.
* `HoldsField` — an entry of the table of values holds a field.
* `EnumMember.valueRead`, `EnumMember.descriptionRead` — what the entries of a member are read as.
* `scan?_tableEntries` — the entries of a table and the commas between them.
* `EntriesRead` — the lines of a table are read back as its entries.
* `statements?_declarations` — declarations are read back, given their entries.
* `enumeration_reads_back` — the declarations of an enumeration are read back.
-/

namespace TypeExport

open TypeScript

/-! ### Reasons for being obsolete -/

/-- The reason that a marker gives as its first argument; any other argument is none. -/
def Marker.reason (marker : Marker) : String :=
  match marker.arguments with
  | .text reason :: _ => reason
  | _ => ""

/-- The reason for which an element with the markers is obsolete, if it is. -/
def obsoleteReasons (markers : List Marker) : List String :=
  (findMarker? markers Metadata.obsoleteMarker).toList.map (·.reason)

/-- The reason for being obsolete does not hold the end of a comment. -/
def StaysInComment (markers : List Marker) : Prop :=
  ∀ reason ∈ obsoleteReasons markers, ¬ ['*', '/'] <:+: reason.toList

/-- How a comment begins that marks something as obsolete. -/
def noteHead : String := "* @deprecated "

/-- What a comment holds that marks something as obsolete. -/
def obsoleteNote (reason : String) : String :=
  noteHead ++ if reason = "" then "" else reason ++ " "

/-- The reason that a comment gives, if it marks something as obsolete.  A blank stands behind a
reason that is not empty. -/
def obsoleteReason? (comment : String) : Option String := do
  let rest ← Text.behind? noteHead.toList comment.toList
  if rest.isEmpty then return ""
  else if rest.getLast? = some ' ' then return .ofList rest.dropLast
  else none

/-- The reason of a note is read back from it. -/
theorem obsoleteReason?_obsoleteNote (reason : String) :
    obsoleteReason? (obsoleteNote reason) = some reason := by
  unfold obsoleteReason? obsoleteNote
  rw [String.toList_append, Text.behind?_append]
  by_cases hempty : reason = ""
  · rw [if_pos hempty, hempty]
    rfl
  · simp [hempty]

/-- A note closes no comment if its reason does not. -/
theorem not_infix_obsoleteNote {reason : String} (h : ¬ ['*', '/'] <:+: reason.toList) :
    ¬ ['*', '/'] <:+: (obsoleteNote reason).toList := by
  have hfront : ¬ ['*', '/'] <:+: noteHead.toList := Text.not_infix_of_notMem '*' (by decide)
  have hlast : noteHead.toList.getLast? ≠ some '*' := by decide
  have hblank : ¬ ['*', '/'] <:+: " ".toList := Text.not_infix_of_notMem '*' (by decide)
  have hhead : " ".toList.head? ≠ some '/' := by decide
  unfold obsoleteNote
  rw [String.toList_append]
  -- The pair that ends a comment would have to stand across a border of head, reason and blank.
  by_cases hempty : reason = ""
  · rw [if_pos hempty, show "".toList = [] from rfl, List.append_nil]
    exact hfront
  · rw [if_neg hempty, String.toList_append]
    exact Text.not_infix_append hfront (Text.not_infix_append h hblank (.inr hhead)) (.inl hlast)

/-- A mark for something obsolete is one comment. -/
theorem scans_deprecationMark {message? : Option String} (indent : Nat)
    (h : ¬ ['*', '/'] <:+: (message?.getD "").toList) :
    Scans (deprecationMark message? indent) [.comment (obsoleteNote (message?.getD ""))] := by
  -- The indentation gives no token, the comment one, and the end of the line none.
  have hspaces : Scans (String.ofList (indentation indent)) [] := by
    refine scans_blanks fun c hc => ?_
    rw [String.toList_ofList] at hc
    obtain rfl := List.eq_of_mem_replicate hc
    rfl
  have hline : Scans "\n" [] := by decide
  have htext : deprecationMark message? indent
      = String.ofList (indentation indent)
        ++ ("/*" ++ obsoleteNote (message?.getD "") ++ "*/" ++ "\n") := by
    have hhead : "/** @deprecated " = "/*" ++ noteHead := by decide
    have hend : "*/\n" = "*/" ++ "\n" := by decide
    unfold deprecationMark obsoleteNote
    rw [hhead, hend]
    simp only [String.append_assoc]
  rw [htext]
  exact hspaces.append ((scans_comment (not_infix_obsoleteNote h)).append hline)

/-! ### What the markers say -/

/-- The marker that a message is read from has the message as its reason, or none where the message
is missing. -/
theorem reasons_of_optionalText {element : Marked} {marker? : Option Marker}
    {message? : Option String} (h : Metadata.optionalText element marker? = .ok message?) :
    marker?.toList.map (·.reason) = if marker?.isSome then [message?.getD ""] else [] := by
  cases marker? with
  | none => rfl
  | some marker =>
    -- The reader takes the first argument, of which a missing or null one counts as empty.
    have hreason : marker.reason = message?.getD "" := by
      rw [Metadata.optionalText] at h
      unfold Marker.reason
      split at h
      · next hnone => rw [hnone, ← Except.ok.inj h]; rfl
      · next hnull => rw [hnull, ← Except.ok.inj h]; rfl
      · next text _ htext => rw [htext, ← Except.ok.inj h]; rfl
      · cases h
    rw [Option.toList_some, List.map_singleton, hreason]
    rfl

/-- What is read from the markers of an element: whether it is made of flags, and why it is
obsolete. -/
theorem Metadata.of_read_eq_ok {settings : Settings} {element : Marked} {metadata : Metadata}
    (h : Metadata.read settings element = .ok metadata) :
    metadata.isFlags = (element.find? flagsMarker).isSome ∧
      obsoleteReasons element.markers
        = if metadata.isObsolete then [metadata.obsoleteMessage?.getD ""] else [] := by
  obtain ⟨message?, hmessage, h⟩ := Except.bind_eq_ok_iff.mp h
  obtain ⟨description?, -, h⟩ := Except.bind_eq_ok_iff.mp h
  obtain ⟨domain?, -, h⟩ := Except.bind_eq_ok_iff.mp h
  obtain rfl := Except.ok.inj h
  exact ⟨rfl, reasons_of_optionalText hmessage⟩

/-- What is written as a comment in front of something that may be obsolete. -/
def obsoleteNotes (isObsolete : Bool) (message? : Option String) : List String :=
  if isObsolete then [obsoleteNote (message?.getD "")] else []

/-- The comments in front of an element give the reasons for which it is obsolete. -/
theorem obsoleteReason?_obsoleteNotes {settings : Settings} {element : Marked}
    {metadata : Metadata} (h : Metadata.read settings element = .ok metadata) :
    (obsoleteNotes metadata.isObsolete metadata.obsoleteMessage?).map obsoleteReason?
      = (obsoleteReasons element.markers).map some := by
  rw [(Metadata.of_read_eq_ok h).2, obsoleteNotes]
  cases metadata.isObsolete with
  | false => rfl
  | true => simp only [if_true, List.map_singleton, obsoleteReason?_obsoleteNote]

/-- The mark of something that may be obsolete, and its comments. -/
theorem scans_obsoleteMark {settings : Settings} {element : Marked} {metadata : Metadata}
    (h : Metadata.read settings element = .ok metadata) (hstays : StaysInComment element.markers)
    (indent : Nat) :
    Scans (if metadata.isObsolete then deprecationMark metadata.obsoleteMessage? indent else "")
      ((obsoleteNotes metadata.isObsolete metadata.obsoleteMessage?).map .comment) := by
  have hreasons := (Metadata.of_read_eq_ok h).2
  unfold StaysInComment at hstays
  unfold obsoleteNotes
  by_cases hobsolete : metadata.isObsolete
  · rw [if_pos hobsolete] at hreasons ⊢
    rw [hreasons, List.forall_mem_singleton] at hstays
    rw [if_pos hobsolete]
    exact scans_deprecationMark indent hstays
  · rw [if_neg hobsolete, if_neg hobsolete]
    decide

/-! ### Entries -/

/-- An entry of the table of values holds a field: under its name, with its value in full, or with
thirty-two bits of it if the enumeration is made of flags.  A comment in front of the entry says why
the field is obsolete, if it is; there is no other comment. -/
structure HoldsField (isFlags : Bool) (entry : Entry) (field : Field) : Prop where
  key : entry.key = .name field.name
  plain : isFlags = false → entry.value = .number (.decimal field.value)
  flags : isFlags = true → ∃ digits bits, entry.value = .number (.hexadecimal digits bits) ∧
    4 ≤ digits ∧ (bits : Int) = field.value % 0x100000000
  obsolete : entry.comments.map obsoleteReason? = (obsoleteReasons field.markers).map some

namespace EnumMember

/-- What the entry of a member in the table of values is read as. -/
def valueRead (member : EnumMember) : Entry where
  comments := obsoleteNotes member.isObsolete member.obsoleteMessage?
  key := .name member.name
  value := .number member.numeral

/-- What the entry of a member in the table of descriptions is read as. -/
def descriptionRead (member : EnumMember) : Entry where
  key := .number (.decimal member.value)
  value := .text member.displayText

/-- The tokens of the entry of a member in the table of values. -/
def valueTokens (member : EnumMember) : List Token :=
  entryTokens (obsoleteNotes member.isObsolete member.obsoleteMessage?) [.word member.name]
    member.literalTokens

/-- The tokens of the entry of a member in the table of descriptions. -/
def descriptionTokens (member : EnumMember) : List Token :=
  entryTokens [] (keyTokens member.value) [.text member.displayText]

/-- A member that is read has the name and the value of its field and what its metadata says. -/
theorem of_read_eq_ok {settings : Settings} {isFlags : Bool} {field : Field} {member : EnumMember}
    (h : EnumMember.read settings isFlags field = .ok member) :
    ∃ metadata, Metadata.read settings (.field field) = .ok metadata ∧
      member = ⟨field.name, field.value, metadata.description?, metadata.isObsolete,
        metadata.obsoleteMessage?, isFlags⟩ := by
  obtain ⟨metadata, hmetadata, h⟩ := Except.bind_eq_ok_iff.mp h
  exact ⟨metadata, hmetadata, (Except.ok.inj h).symm⟩

/-- The entry of a member holds the field that it was read from. -/
theorem holdsField_valueRead {settings : Settings} {isFlags : Bool} {field : Field}
    {member : EnumMember} (h : EnumMember.read settings isFlags field = .ok member) :
    HoldsField isFlags member.valueRead field := by
  obtain ⟨metadata, hmetadata, rfl⟩ := of_read_eq_ok h
  refine ⟨rfl, ?_, ?_, obsoleteReason?_obsoleteNotes hmetadata⟩
  · rintro rfl
    rfl
  · rintro rfl
    have hnonneg : 0 ≤ field.value % 0x100000000 := Int.emod_nonneg _ (by decide)
    exact ⟨_, _, rfl, Nat.le_max_left _ _, Int.toNat_of_nonneg hnonneg⟩

/-- The value of a member is read back as the number that is written. -/
theorem literal?_literalTokens (member : EnumMember) :
    literal? member.literalTokens = some (.number member.numeral) := by
  have hnumeral := member.numeral?_literalTokens
  unfold literalTokens at hnumeral ⊢
  -- A flag is one word; any other number may have a sign in front.
  by_cases hflags : member.isFlags
  · rw [if_pos hflags] at hnumeral ⊢
    rw [literal?, hnumeral]
    · rfl
    · rintro value ⟨⟩
  · have hdecimal : member.numeral = .decimal member.value := if_neg hflags
    rw [if_neg hflags, hdecimal]
    exact literal?_decimalTokens member.value

/-- No key has a colon inside. -/
theorem mark_colon_notMem_keyTokens (value : Int) : .mark ':' ∉ keyTokens value := by
  unfold keyTokens decimalTokens
  by_cases hnegative : value < 0 <;> simp [hnegative]

/-- **Entries.** The entries of a member are read back. -/
theorem entry?_valueTokens {member : EnumMember} (h : IsIdentifier member.name) :
    entry? member.valueTokens = some member.valueRead :=
  entry?_entryTokens (key?_identifier h) member.literal?_literalTokens (by simp)

/-- The entry of a description is read back. -/
theorem entry?_descriptionTokens (member : EnumMember) :
    entry? member.descriptionTokens = some member.descriptionRead :=
  entry?_entryTokens (key?_keyTokens member.value) rfl (mark_colon_notMem_keyTokens member.value)

/-- The line of a member in the table of values consists of its mark, if it is obsolete, its name
and its number. -/
theorem scan?_valueEntry {settings : Settings} {isFlags : Bool} {field : Field}
    {member : EnumMember} (h : EnumMember.read settings isFlags field = .ok member)
    (hname : IsIdentifier field.name) (hstays : StaysInComment field.markers) (typeName : String) :
    scan? (member.valueEntry {} typeName) = some member.valueTokens := by
  obtain ⟨metadata, hmetadata, rfl⟩ := of_read_eq_ok h
  have hmark := scans_obsoleteMark hmetadata hstays 4
  have hindent : Scans "    " [] := by decide
  have hcolon : Separates ": " [.mark ':'] := by decide
  unfold valueEntry
  -- Without documentation, the mark is all that may stand before the indentation.
  rw [show typeScriptComment (({} : Documentation).memberSummary? typeName field.name) 4 = ""
      from rfl, String.empty_append]
  simp only [String.append_assoc]
  rw [scan?_append_of_scans hmark, scan?_append_of_scans hindent,
    hcolon.scan?_append (scan?_identifier hname), scan?_literal]
  rfl

/-- The line of a member in the table of descriptions consists of its number and a text. -/
theorem scan?_descriptionEntry (member : EnumMember) :
    scan? member.descriptionEntry = some member.descriptionTokens := by
  have hindent : Scans "    " [] := by decide
  have hcolon : Separates ": " [.mark ':'] := by decide
  unfold descriptionEntry
  simp only [String.append_assoc]
  rw [scan?_append_of_scans hindent, hcolon.scan?_append member.scan?_key,
    (scans_doubleQuoted member.displayText).scan?_eq]
  simp [descriptionTokens, entryTokens]

end EnumMember

/-! ### Tables -/

/-- **Separators.** The entries of a table have a comma between them, and none behind the last. -/
theorem scan?_tableEntries {texts : List String} {entries : List (List Token)}
    (h : List.Forall₂ (fun text tokens => scan? text = some tokens) texts entries) :
    scan? (tableEntries texts) = some ([.mark ','].intercalate entries) := by
  have hcomma : Separates ",\n\n" [.mark ','] := by decide
  have hline : Separates "\n" [] := by decide
  cases h with
  | nil => rfl
  | @cons text tokens texts entries hfirst hothers =>
    rw [tableEntries, List.isEmpty_cons, if_neg Bool.false_ne_true]
    -- The induction is on the lines behind the first one, each of which brings its comma.
    induction hothers generalizing text tokens with
    | nil =>
      rw [String.intercalate_singleton, hline.scan?_last hfirst]
      simp
    | @cons next nextTokens texts entries hnext _ ih =>
      rw [String.intercalate_cons_cons, List.intercalate_cons_cons]
      simp only [String.append_assoc]
      rw [hcomma.scan?_append hfirst, ih hnext]
      simp

/-- The marks that stand in entries. -/
def entryMarks : List Char := ['[', '-', ']', ':']

/-- The entry of a value has no marks but those of an entry. -/
theorem mem_entryMarks_of_valueTokens {member : EnumMember} {mark : Char}
    (h : .mark mark ∈ member.valueTokens) : mark ∈ entryMarks := by
  unfold EnumMember.valueTokens EnumMember.literalTokens entryTokens decimalTokens at h
  -- The tokens depend on the two questions only: whether it is a flag, and on which side of zero.
  by_cases hflags : member.isFlags <;> by_cases hnegative : member.value < 0 <;>
    simp [hflags, hnegative, entryMarks] at h ⊢ <;> tauto

/-- The entry of a description has no marks but those of an entry. -/
theorem mem_entryMarks_of_descriptionTokens {member : EnumMember} {mark : Char}
    (h : .mark mark ∈ member.descriptionTokens) : mark ∈ entryMarks := by
  unfold EnumMember.descriptionTokens keyTokens entryTokens decimalTokens at h
  by_cases hnegative : member.value < 0 <;> simp [hnegative, entryMarks] at h ⊢ <;> tauto

/-- The lines of a table consist of the tokens, and these are read as the entries.  Neither the
table nor its statement ends between them. -/
structure EntriesRead (texts : List String) (inside : List Token) (entries : List Entry) :
    Prop where
  scan : scan? (tableEntries texts) = some inside
  entries : (parts ',' inside).mapM entry? = some entries
  brace : .mark '\x7d' ∉ inside
  semicolon : .mark ';' ∉ inside

/-- The entries of a table are read back if every line is. -/
theorem entriesRead_map {members : List EnumMember} {text : EnumMember → String}
    {tokens : EnumMember → List Token} {read : EnumMember → Entry}
    (hscan : ∀ member ∈ members, scan? (text member) = some (tokens member))
    (hentry : ∀ member ∈ members, entry? (tokens member) = some (read member))
    (hmarks : ∀ member mark, .mark mark ∈ tokens member → mark ∈ entryMarks) :
    EntriesRead (members.map text) ([.mark ','].intercalate (members.map tokens))
      (members.map read) := by
  -- A table is divided at its commas and ends with its bracket, so no entry may hold these.
  have hnot {mark : Char} (hcomma : mark ≠ ',') (hmark : mark ∉ entryMarks) :
      .mark mark ∉ [.mark ','].intercalate (members.map tokens) := by
    intro h
    obtain heq | ⟨entry, hentry, hmem⟩ := Text.mem_of_mem_intercalate h
    · exact hcomma (Token.mark.inj (List.mem_singleton.mp heq))
    · obtain ⟨member, -, rfl⟩ := List.mem_map.mp hentry
      exact hmark (hmarks member mark hmem)
  have hparts : ∀ entry ∈ members.map tokens, entry ≠ [] ∧ .mark ',' ∉ entry := by
    intro entry hmem
    obtain ⟨member, hmember, rfl⟩ := List.mem_map.mp hmem
    constructor
    · intro hnil
      have hread := hentry member hmember
      rw [hnil] at hread
      cases hread
    · intro hcomma
      exact absurd (hmarks member ',' hcomma) (by decide)
  refine ⟨scan?_tableEntries ?_, ?_, hnot (by decide) (by decide), hnot (by decide) (by decide)⟩
  · rw [List.forall₂_map_left_iff, List.forall₂_map_right_iff, List.forall₂_same]
    exact hscan
  · rw [parts_intercalate hparts, Option.mapM_eq_some_iff, List.forall₂_map_left_iff,
      List.forall₂_map_right_iff, List.forall₂_same]
    exact hentry

/-- The entries of the value table are read back one by one, the reasons of obsolete members among
their comments. -/
theorem entriesRead_values {settings : Settings} {isFlags : Bool} {fields : List Field}
    {members : List EnumMember} (h : fields.mapM (EnumMember.read settings isFlags) = .ok members)
    (hfields : ∀ field ∈ fields, IsIdentifier field.name ∧ StaysInComment field.markers)
    (typeName : String) :
    EntriesRead (members.map (·.valueEntry {} typeName))
      ([.mark ','].intercalate (members.map (·.valueTokens))) (members.map (·.valueRead)) := by
  refine entriesRead_map ?_ ?_ fun _ _ => mem_entryMarks_of_valueTokens
  -- Scanning and reading both need the field that the member was read from.
  all_goals
    intro member hmember
    obtain ⟨field, hfield, hread⟩ := (Except.mem_of_mapM_eq_ok h member).mp hmember
    obtain ⟨hname, hstays⟩ := hfields field hfield
  · exact EnumMember.scan?_valueEntry hread hname hstays typeName
  · obtain ⟨_, -, rfl⟩ := EnumMember.of_read_eq_ok hread
    exact EnumMember.entry?_valueTokens hname

/-- The entries of the description table are read back one by one. -/
theorem entriesRead_descriptions (members : List EnumMember) :
    EntriesRead (members.map (·.descriptionEntry))
      ([.mark ','].intercalate (members.map (·.descriptionTokens)))
      (members.map (·.descriptionRead)) :=
  entriesRead_map (fun member _ => member.scan?_descriptionEntry)
    (fun member _ => member.entry?_descriptionTokens)
    fun _ _ => mem_entryMarks_of_descriptionTokens

/-! ### Declarations -/

/-- The tokens of the type of the table of descriptions. -/
def descriptionType : List Token :=
  [.mark ':', .word "Record", .mark '<', .word "number", .mark ',', .word "string", .mark '>']

/-- The tokens of the type that an enumeration is declared as. -/
def aliasType (name : String) (isFlags : Bool) : List Token :=
  if isFlags then [.word "number"]
  else [.word "typeof", .word name, .mark '[', .word "keyof", .word "typeof", .word name, .mark ']']

/-- A type name has no semicolon inside. -/
theorem mark_notMem_aliasTokens (name : String) (isFlags : Bool) :
    .mark ';' ∉ typeNameTokens [] name (aliasType name isFlags) := by
  unfold aliasType
  cases isFlags <;> simp [typeNameTokens]

section

variable {name : String} {texts : List String} {inside : List Token}

/-- A value table is scanned as one constant, up to its semicolon. -/
theorem scan?_valueTable (hname : IsIdentifier name)
    (hentries : scan? (tableEntries texts) = some inside) (rest : String) :
    scan? (valueTable name texts ++ rest)
      = (scan? rest).map (tableTokens [] name [] inside true ++ .mark ';' :: ·) := by
  have hexport : Scans "export const " [.word "export", .word "const"] := by decide
  have hopen : Separates " = \x7b\n" [.mark '=', .mark '\x7b'] := by decide
  have hclose : Separates "\x7d as const;\n"
      [.mark '\x7d', .word "as", .word "const", .mark ';'] := by decide
  unfold valueTable
  simp only [String.append_assoc]
  rw [scan?_append_of_scans hexport, hopen.scan?_append (scan?_identifier hname),
    hclose.scan?_append hentries]
  simp [tableTokens, Function.comp_def]

/-- A description table is scanned as one declaration of its own type, up to its semicolon. -/
theorem scan?_descriptionTable (hname : IsIdentifier name)
    (hentries : scan? (tableEntries texts) = some inside) (rest : String) :
    scan? (descriptionTable name texts ++ rest)
      = (scan? rest).map
          (tableTokens [] (name ++ "Description") descriptionType inside false
            ++ .mark ';' :: ·) := by
  have hexport : Scans "export const " [.word "export", .word "const"] := by decide
  have hwhole : IsIdentifier (name ++ "Description") := hname.append (by decide)
  have hparts : "Description: Record<number, string> = \x7b\n"
      = "Description" ++ ": Record<number, string> = \x7b\n" := by decide
  -- The ending belongs to the name, so the name is scanned with it.
  have hjoined (rest : String) :
      name ++ ("Description" ++ rest) = name ++ "Description" ++ rest := String.append_assoc.symm
  have hopen : Separates ": Record<number, string> = \x7b\n"
      (descriptionType ++ [.mark '=', .mark '\x7b']) := by decide
  have hclose : Separates "\x7d;\n" [.mark '\x7d', .mark ';'] := by decide
  unfold descriptionTable
  rw [hparts]
  simp only [String.append_assoc]
  rw [hjoined, scan?_append_of_scans hexport, hopen.scan?_append (scan?_identifier hwhole),
    hclose.scan?_append hentries]
  simp [tableTokens, Function.comp_def]

/-- The type name of an enumeration is scanned as one, up to its semicolon. -/
theorem scan?_enumAlias (isFlags : Bool) (hname : IsIdentifier name) :
    scan? (enumAlias name isFlags)
      = some (typeNameTokens [] name (aliasType name isFlags) ++ [.mark ';']) := by
  have hexport : Scans "export type " [.word "export", .word "type"] := by decide
  unfold enumAlias aliasType typeNameTokens
  -- Flags are numbers; other enumerations are one of the keys of their table.
  cases isFlags with
  | true =>
    have hnumber : Separates " = number;\n" [.mark '=', .word "number", .mark ';'] := by decide
    simp only [if_true, String.append_assoc]
    rw [scan?_append_of_scans hexport, hnumber.scan?_last (scan?_identifier hname)]
    rfl
  | false =>
    have hopen : Separates " = typeof " [.mark '=', .word "typeof"] := by decide
    have hkeys : Separates "[keyof typeof " [.mark '[', .word "keyof", .word "typeof"] := by decide
    have hclose : Separates "];\n" [.mark ']', .mark ';'] := by decide
    simp only [Bool.false_eq_true, if_false, String.append_assoc]
    rw [scan?_append_of_scans hexport, hopen.scan?_append (scan?_identifier hname),
      hkeys.scan?_append (scan?_identifier hname), hclose.scan?_last (scan?_identifier hname)]
    rfl

/-- The three declarations follow each other, each with its semicolon. -/
theorem scan?_declarations {notes : List String} {mark : String} {descriptionTexts : List String}
    {descriptionsInside : List Token} (isFlags : Bool) (hname : IsIdentifier name)
    (hmark : Scans mark (notes.map .comment))
    (hvalues : scan? (tableEntries texts) = some inside)
    (hdescriptions : scan? (tableEntries descriptionTexts) = some descriptionsInside) :
    scan? ("\n".intercalate [mark ++ valueTable name texts,
        descriptionTable name descriptionTexts, enumAlias name isFlags])
      = some ([tableTokens notes name [] inside true,
          tableTokens [] (name ++ "Description") descriptionType descriptionsInside false,
          typeNameTokens [] name (aliasType name isFlags)].flatMap (· ++ [.mark ';'])) := by
  have hline : Scans "\n" [] := by decide
  rw [String.intercalate_cons_cons, String.intercalate_cons_cons, String.intercalate_singleton]
  simp only [String.append_assoc]
  rw [scan?_append_of_scans hmark, scan?_valueTable hname hvalues, scan?_append_of_scans hline,
    scan?_descriptionTable hname hdescriptions, scan?_append_of_scans hline,
    scan?_enumAlias isFlags hname]
  simp [tableTokens]

/-- **Declarations.** They are read back as two tables and a name for a type. -/
theorem statements?_declarations {notes : List String} {mark : String}
    {descriptionTexts : List String} {descriptionsInside : List Token}
    {values descriptions : List Entry} (isFlags : Bool) (hname : IsIdentifier name)
    (hmark : Scans mark (notes.map .comment)) (hvalues : EntriesRead texts inside values)
    (hdescriptions : EntriesRead descriptionTexts descriptionsInside descriptions) :
    statements? ("\n".intercalate [mark ++ valueTable name texts,
        descriptionTable name descriptionTexts, enumAlias name isFlags])
      = some [.table ⟨notes, name, [], values, true⟩,
          .table ⟨[], name ++ "Description", descriptionType, descriptions, false⟩,
          .typeName [] name (aliasType name isFlags)] := by
  have htype : .mark '=' ∉ descriptionType := by decide
  have htypeEnd : .mark ';' ∉ descriptionType := by decide
  have hscan := scan?_declarations isFlags hname hmark hvalues.scan hdescriptions.scan
  -- A semicolon ends each statement, and none stands inside one.
  refine statements?_eq hscan ?_ ?_
  · simp only [List.forall_mem_cons]
    exact ⟨mark_notMem_tableTokens _ _ _ List.not_mem_nil hvalues.semicolon,
      mark_notMem_tableTokens _ _ _ htypeEnd hdescriptions.semicolon,
      mark_notMem_aliasTokens _ _, List.forall_mem_nil _⟩
  · have hvalueTable := statement?_tableTokens notes name true List.not_mem_nil hvalues.brace
      hvalues.entries
    have hdescriptionTable := statement?_tableTokens [] (name ++ "Description") false htype
      hdescriptions.brace hdescriptions.entries
    rw [Option.mapM_eq_some_iff]
    exact .cons hvalueTable (.cons hdescriptionTable
      (.cons (statement?_typeNameTokens _ _ _) .nil))

end

/-! ### The whole text -/

/-- What is known about the members that are read from the fields of an enumeration. -/
theorem of_enumMembers_eq_ok {settings : Settings} {tree : TypeTree} {fields : List Field}
    {members : List EnumMember} {metadata : Metadata}
    (hmetadata : Metadata.read settings (.type tree) = .ok metadata)
    (h : enumMembers settings tree fields = .ok members) :
    fields.mapM (EnumMember.read settings metadata.isFlags) = .ok members := by
  obtain ⟨metadata', hmetadata', hread⟩ := Except.bind_eq_ok_iff.mp h
  obtain rfl : metadata = metadata' := Except.ok.inj (hmetadata.symm.trans hmetadata')
  exact hread

variable {graph : TypeGraph} {settings : Settings} {type : TypeRef} {text : String}

/-- The declarations that are written without documentation. -/
theorem of_enumDeclaration_eq_ok (h : enumDeclaration graph settings {} type = .ok text) :
    ∃ metadata members, Metadata.read settings (.type (graph.tree type)) = .ok metadata ∧
      enumMembers settings (graph.tree type) (graph.fields type) = .ok members ∧
      text = "\n".intercalate [
        (if metadata.isObsolete then deprecationMark metadata.obsoleteMessage? 0 else "")
          ++ valueTable (graph.tree type).facts.name
            (members.map (·.valueEntry {} (graph.tree type).facts.fullName)),
        descriptionTable (graph.tree type).facts.name
          ((described members).map (·.descriptionEntry)),
        enumAlias (graph.tree type).facts.name metadata.isFlags] := by
  have hcomment (fullName : String) :
      typeScriptComment (({} : Documentation).typeSummary? fullName) = "" := rfl
  obtain ⟨metadata, hmetadata, h⟩ := Except.bind_eq_ok_iff.mp h
  obtain ⟨members, hmembers, h⟩ := Except.bind_eq_ok_iff.mp h
  refine ⟨metadata, members, hmetadata, hmembers, ?_⟩
  rw [← Except.ok.inj h]
  simp only [hcomment, String.empty_append]

/-- **Nothing is lost.**  Where an enumeration is declared without documentation, under identifiers
and with reasons that stay in their comments, the text is read back as two tables and a type.  The
table of values holds the fields, in their order, and says which of them are obsolete.  The table of
descriptions holds the members that keep a description, in their order, each with its text under its
value. -/
theorem enumeration_reads_back (h : enumDeclaration graph settings {} type = .ok text)
    (hname : IsIdentifier (graph.tree type).facts.name)
    (hfields : ∀ field ∈ graph.fields type, IsIdentifier field.name ∧ StaysInComment field.markers)
    (hmarkers : StaysInComment (graph.tree type).facts.markers) :
    let facts := (graph.tree type).facts
    let isFlags := (findMarker? facts.markers Metadata.flagsMarker).isSome
    ∃ members values descriptions,
      enumMembers settings (graph.tree type) (graph.fields type) = .ok members ∧
      statements? text = some [.table values, .table descriptions,
        .typeName [] facts.name (aliasType facts.name isFlags)] ∧
      values.name = facts.name ∧
      values.comments.map obsoleteReason? = (obsoleteReasons facts.markers).map some ∧
      List.Forall₂ (HoldsField isFlags) values.entries (graph.fields type) ∧
      descriptions.name = facts.name ++ "Description" ∧
      descriptions.comments = [] ∧
      descriptions.entries = (described members).map fun member =>
        { key := .number (.decimal member.value), value := .text member.displayText } := by
  intro facts isFlags
  obtain ⟨metadata, members, hmetadata, hmembers, rfl⟩ := of_enumDeclaration_eq_ok h
  have hread := of_enumMembers_eq_ok hmetadata hmembers
  have hflags : metadata.isFlags = isFlags := (Metadata.of_read_eq_ok hmetadata).1
  have hmark := scans_obsoleteMark hmetadata hmarkers 0
  have hvalues := entriesRead_values hread hfields facts.fullName
  have hdescriptions := entriesRead_descriptions (described members)
  have hstatements :=
    statements?_declarations metadata.isFlags hname hmark hvalues hdescriptions
  have hholds : List.Forall₂ (HoldsField metadata.isFlags) (members.map (·.valueRead))
      (graph.fields type) := by
    rw [List.forall₂_map_left_iff]
    exact (Except.mapM_eq_ok_iff.mp hread).flip.imp fun _ _ => EnumMember.holdsField_valueRead
  -- Whether the members are flags is said by the markers of the enumeration, not of the members.
  rw [← hflags]
  exact ⟨members, _, _, hmembers, hstatements, rfl, obsoleteReason?_obsoleteNotes hmetadata,
    hholds, rfl, rfl, rfl⟩

/-- The places of a page where something may be shown, one of them renamed. -/
def placeGraph : TypeGraph where
  entries := [{
    facts := {
      name := "Place"
      isEnum := true
      markers := [⟨Metadata.flagsMarker, []⟩] }
    fields := [
      { name := "Header", value := 1,
        markers := [⟨Metadata.obsoleteMarker, [.text "Use \"Top\""]⟩] },
      { name := "Top", value := 1 },
      { name := "Everywhere", value := -1,
        markers := [⟨Metadata.descriptionMarker, [.text "Any \"place\"\n"]⟩] }] }]

/-- The declarations of the places are read back, with the flag that stands for all others. -/
theorem enumeration_reads_back_places :
    ∃ text values descriptions,
      enumDeclaration placeGraph {} {} (.declared 0) = .ok text ∧
      statements? text = some [.table values, .table descriptions,
        .typeName [] "Place" [.word "number"]] ∧
      List.Forall₂ (HoldsField true) values.entries (placeGraph.fields (.declared 0)) ∧
      descriptions.entries = [
        { key := .number (.decimal 1), value := .text "Top" },
        { key := .number (.decimal (-1)), value := .text "Any \"place\"\n" }] := by
  have hdeclared : enumDeclaration placeGraph {} {} (.declared 0) = .ok _ := rfl
  have hnames : ∀ field ∈ placeGraph.fields (.declared 0), IsIdentifier field.name := by decide
  -- A reason without a slash cannot end its comment.
  have hreasons : ∀ field ∈ placeGraph.fields (.declared 0),
      ∀ reason ∈ obsoleteReasons field.markers, '/' ∉ reason.toList := by decide
  have hstays : StaysInComment (placeGraph.tree (.declared 0)).facts.markers := nofun
  obtain ⟨members, values, descriptions, hmembers, hread, -, -, hholds, -, -, hentries⟩ :=
    enumeration_reads_back hdeclared (by decide)
      (fun field hfield => ⟨hnames field hfield, fun reason hreason =>
        Text.not_infix_of_notMem '*' (hreasons field hfield reason hreason)⟩) hstays
  obtain rfl : [
      ⟨"Header", 1, none, true, some "Use \"Top\"", true⟩,
      ⟨"Top", 1, none, false, none, true⟩,
      ⟨"Everywhere", -1, some "Any \"place\"\n", false, none, true⟩] = members :=
    Except.ok.inj hmembers
  exact ⟨_, values, descriptions, hdeclared, hread, hholds, hentries.trans (by decide)⟩

end TypeExport
