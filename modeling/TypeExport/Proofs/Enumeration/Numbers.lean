import TypeExport.Enumeration
import TypeExport.Proofs.TypeScript.Tables

/-!
# The numbers of an enumeration

A member of an enumeration stands in two tables: the table of values holds its number, and the
table of descriptions has an entry under a number.  Flags are cut to thirty-two bits in the first
table and not in the second one, so the numbers are the same exactly if nothing is cut.

* `valueNumber?`, `keyNumber?` — the numbers that are written in the tables.
* `EnumMember.writtenNumber` — the number of a member in the table of values.
* `scan?_literal`, `literal?_literalTokens`, `scan?_key` — what is written for a member.
* `descriptionUnder?` — the description that is found under a number.
* `tables_agree_iff` — when the numbers of a member are the same.
-/

namespace TypeExport

open TypeScript

/-! ### What is written for a member -/

namespace EnumMember

/-- The number of a member in the table of values. -/
def writtenNumber (member : EnumMember) : Int :=
  if member.isFlags then member.value % 0x100000000 else member.value

/-- The number of a member as it is written in the table of values. -/
def numeral (member : EnumMember) : Numeral :=
  if member.isFlags then
    let bits := (member.value % 0x100000000).toNat
    .hexadecimal (max 4 (Nat.toDigits 16 bits).length) bits
  else .decimal member.value

/-- The numeral of a member has the number that is written. -/
theorem number_numeral (member : EnumMember) : member.numeral.number = member.writtenNumber := by
  unfold numeral writtenNumber
  by_cases hflags : member.isFlags
  · rw [if_pos hflags, if_pos hflags]
    have hnonneg : 0 ≤ member.value % 0x100000000 := Int.emod_nonneg _ (by decide)
    simpa [Numeral.number] using hnonneg
  · rw [if_neg hflags, if_neg hflags]
    rfl

/-- The tokens of the literal of a member. -/
def literalTokens (member : EnumMember) : List Token :=
  if member.isFlags then [.word (flagsLiteral member.value)] else decimalTokens member.value

/-- The literal of a flag is `0x` and at least four capital digits. -/
theorem flagsLiteral_toList (value : Int) :
    (flagsLiteral value).toList
      = '0' :: 'x' :: (Text.hexadecimal 4 (value % 0x100000000).toNat).map Char.toUpper := by
  simp [flagsLiteral]

/-- The literal of a flag is one word. -/
theorem scan?_flagsLiteral (value : Int) :
    scan? (flagsLiteral value) = some [.word (flagsLiteral value)] := by
  refine scan?_word ?_ ?_ <;> rw [flagsLiteral_toList]
  · exact List.cons_ne_nil _ _
  · intro c hc
    obtain rfl | rfl | hdigit := by simpa using hc
    · decide
    · decide
    · obtain ⟨c, hmem, rfl⟩ := hdigit
      obtain ⟨digit, hlt, rfl⟩ := Text.exists_digit_of_mem_hexadecimal hmem
      exact (isIdentifierChar_digitChar digit hlt).2

/-- The literal of a flag is read as its hexadecimal number. -/
theorem wordNumeral?_flagsLiteral (value : Int) :
    wordNumeral? (flagsLiteral value)
      = some (.hexadecimal (max 4 (Nat.toDigits 16 (value % 0x100000000).toNat).length)
          (value % 0x100000000).toNat) := by
  unfold wordNumeral?
  rw [flagsLiteral_toList]
  simp [Text.number?_hexadecimal_upper, Text.length_hexadecimal]

/-- **Values.** The literal of a member is one number. -/
theorem scan?_literal (member : EnumMember) :
    scan? member.literal = some member.literalTokens := by
  unfold literal literalTokens
  by_cases hflags : member.isFlags
  · rw [if_pos hflags, if_pos hflags]
    exact scan?_flagsLiteral member.value
  · rw [if_neg hflags, if_neg hflags]
    exact scan?_toString member.value

/-- The value of a member is read as its numeral. -/
theorem numeral?_literalTokens (member : EnumMember) :
    numeral? member.literalTokens = some member.numeral := by
  unfold literalTokens numeral
  by_cases hflags : member.isFlags
  · rw [if_pos hflags, if_pos hflags]
    exact wordNumeral?_flagsLiteral member.value
  · rw [if_neg hflags, if_neg hflags]
    exact numeral?_decimalTokens member.value

/-- **Keys.** The key of a member is its number, in brackets if it is negative. -/
theorem scan?_key (member : EnumMember) : scan? member.key = some (keyTokens member.value) :=
  scan?_bracketed member.value

end EnumMember

/-! ### Both tables -/

/-- The number that is written as a value. -/
def valueNumber? (text : String) : Option Int :=
  ((scan? text).bind numeral?).map (·.number)

/-- The number that is written as what an entry is found under. -/
def keyNumber? (text : String) : Option Int :=
  match (scan? text).bind key? with
  | some (.number numeral) => some numeral.number
  | _ => none

/-- The description that is found under a number: that of the last entry with this number. -/
def descriptionUnder? (members : List EnumMember) (number : Int) : Option String :=
  ((described members).reverse.find? fun member => keyNumber? member.key == some number).map
    (·.displayText)

/-- The literal of a member has the number that is written. -/
theorem valueNumber?_literal (member : EnumMember) :
    valueNumber? member.literal = some member.writtenNumber := by
  simp [valueNumber?, member.scan?_literal, member.numeral?_literalTokens, member.number_numeral]

/-- The key of a member has its value. -/
theorem keyNumber?_key (member : EnumMember) : keyNumber? member.key = some member.value := by
  simp [keyNumber?, member.scan?_key, key?_keyTokens, Numeral.number]

/-- Nothing is cut from numbers that have thirty-two bits at most. -/
theorem writtenNumber_eq_iff (member : EnumMember) :
    member.writtenNumber = member.value ↔
      (member.isFlags → 0 ≤ member.value ∧ member.value < 0x100000000) := by
  unfold EnumMember.writtenNumber
  by_cases hflags : member.isFlags
  · rw [if_pos hflags]
    constructor
    · intro h _
      -- What is left of a flag has thirty-two bits, so it is the flag only if that has no more.
      have hnonneg : 0 ≤ member.value % 0x100000000 := Int.emod_nonneg _ (by decide)
      have hlt : member.value % 0x100000000 < 0x100000000 := Int.emod_lt_of_pos _ (by decide)
      omega
    · intro h
      exact Int.emod_eq_of_lt (h hflags).1 (h hflags).2
  · simp [hflags]

variable {members : List EnumMember} {member : EnumMember}

/-- **When both tables agree.**  The value of a member that has a description is written in full, or
cut to thirty-two bits if it is a flag, and its description stands under the full value.  The two
numbers are the same if and only if the member is no flag or nothing is cut from it, and then a
description is found under the number that the table of values holds. -/
theorem tables_agree_iff (h : member ∈ described members) :
    valueNumber? member.literal
        = some (if member.isFlags then member.value % 0x100000000 else member.value) ∧
      keyNumber? member.key = some member.value ∧
      (valueNumber? member.literal = keyNumber? member.key ↔
        (member.isFlags → 0 ≤ member.value ∧ member.value < 0x100000000)) ∧
      ∀ number, valueNumber? member.literal = some number → keyNumber? member.key = some number →
        (descriptionUnder? members number).isSome := by
  refine ⟨valueNumber?_literal member, keyNumber?_key member, ?_, ?_⟩
  · rw [valueNumber?_literal, keyNumber?_key, Option.some.injEq, writtenNumber_eq_iff]
  · intro number _ hkey
    rw [descriptionUnder?, Option.isSome_map, List.find?_isSome]
    exact ⟨member, List.mem_reverse.mpr h, beq_iff_eq.mpr hkey⟩

/-- Two places where something may be shown, one of which has been renamed. -/
def places : List EnumMember :=
  [{ name := "Header", value := 1, isObsolete := true, isFlags := true },
    { name := "Top", value := 1, isFlags := true },
    { name := "Everywhere", value := 0xffffffff, description? := some "All", isFlags := true }]

/-- The renamed place has lost its description to its new name, and all thirty-two bits are kept. -/
theorem tables_agree_iff_places :
    (⟨"Everywhere", 0xffffffff, some "All", false, none, true⟩ ∈ described places) ∧
      valueNumber? "0xFFFFFFFF" = some 0xffffffff ∧ keyNumber? "4294967295" = some 0xffffffff ∧
      (descriptionUnder? places 0xffffffff).isSome := by
  have hmem : ⟨"Everywhere", 0xffffffff, some "All", false, none, true⟩ ∈ described places := by
    decide
  obtain ⟨hvalue, hkey, -, hfound⟩ := tables_agree_iff hmem
  exact ⟨hmem, hvalue, hkey, hfound _ hvalue hkey⟩

/-- The flag that stands for all others has a description, but none is found under its number. -/
theorem all_flags_undescribed :
    ∃ members, enumMembers {} (.type { name := "Mode", markers := [⟨Metadata.flagsMarker, []⟩] } [])
        [{ name := "None", value := 0 }, { name := "All", value := -1 }] = .ok members ∧
      ∃ member ∈ described members, member.name = "All" ∧
        valueNumber? member.literal = some 0xffffffff ∧ keyNumber? member.key = some (-1) ∧
          descriptionUnder? members 0xffffffff = none := by
  refine ⟨[{ name := "None", value := 0, isFlags := true },
    { name := "All", value := -1, isFlags := true }], rfl,
    { name := "All", value := -1, isFlags := true }, ?_⟩
  decide

end TypeExport
