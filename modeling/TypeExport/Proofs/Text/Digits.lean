import TypeExport.Text.Digit
import TypeExport.Text.Quoted
import Mathlib.Data.Nat.Digits.Defs

/-!
# Digits of numbers

The digits that a number is written with denote the number, however they are spelled and however
many zeros stand in front of them.

* `number?_spelled` — digits that are spelled in any way, behind any number of zeros.
* `number?_decimal`, `number?_hexadecimal`, `number?_hexadecimal_upper` — the digits in use.
* `exists_digit_of_mem_toDigits`, `exists_digit_of_mem_hexadecimal` — there is nothing but digits.
* `head?_decimal_ne_zero` — a number other than zero does not start with a zero.
-/

namespace TypeExport.Text

variable {base : Nat} {spell : Char → Char}

/-! ### What digits denote -/

/-- One more digit behind those that denote a number. -/
def appendDigit? (base number : Nat) (c : Char) : Option Nat :=
  ((hexDigit? c).filter (· < base)).map (number * base + ·)

/-- Digits are read by appending one after the other. -/
theorem number?_eq_foldlM {digits : List Char} (h : digits ≠ []) :
    number? base digits = digits.foldlM (appendDigit? base) 0 := by
  unfold number? numberBy?
  rw [List.isEmpty_eq_false_iff.mpr h]
  rfl

/-- A digit that is spelled is appended. -/
theorem appendDigit?_of_spelled {digit : Nat}
    (hspell : ∀ digit < base, hexDigit? (spell digit.digitChar) = some digit)
    (hdigit : digit < base) (number : Nat) :
    appendDigit? base number (spell digit.digitChar) = some (number * base + digit) := by
  simp [appendDigit?, hspell digit hdigit, Option.filter, hdigit]

/-- The digits of a number, behind nothing, denote the number. -/
theorem foldlM_toDigits (hbase : 1 < base)
    (hspell : ∀ digit < base, hexDigit? (spell digit.digitChar) = some digit) (number : Nat) :
    ((Nat.toDigits base number).map spell).foldlM (appendDigit? base) 0 = some number := by
  induction number using Nat.strongRecOn with
  | ind number ih =>
    rw [Nat.toDigits_eq_if hbase]
    by_cases hsmall : number < base
    · rw [if_pos hsmall]
      have hdigit := appendDigit?_of_spelled hspell hsmall 0
      simpa using hdigit
    · rw [if_neg hsmall]
      -- All digits but the last denote the quotient, and the last one is the remainder.
      have hrest := ih (number / base) (Nat.div_lt_self (by omega) hbase)
      have hlast := appendDigit?_of_spelled hspell (Nat.mod_lt number (by omega)) (number / base)
      have hnumber : number / base * base + number % base = number := Nat.div_add_mod' number base
      rw [List.map_append, List.foldlM_append, hrest]
      simpa [hnumber] using hlast

/-- **Digits.** A number is denoted by its digits, behind any number of zeros. -/
theorem number?_spelled (hbase : 1 < base)
    (hspell : ∀ digit < base, hexDigit? (spell digit.digitChar) = some digit)
    (zeros number : Nat) :
    number? base ((List.replicate zeros '0' ++ Nat.toDigits base number).map spell)
      = some number := by
  have hne : (List.replicate zeros '0' ++ Nat.toDigits base number).map spell ≠ [] := by
    simp [Nat.toDigits_ne_nil]
  rw [number?_eq_foldlM hne]
  clear hne
  induction zeros with
  | zero => exact foldlM_toDigits hbase hspell number
  | succ zeros ih =>
    -- A zero in front keeps the number zero that it is appended to.
    have hzero : appendDigit? base 0 (spell '0') = some (0 * base + 0) :=
      appendDigit?_of_spelled hspell (Nat.zero_lt_of_lt hbase) 0
    rw [List.replicate_succ, List.cons_append, List.map_cons, List.foldlM_cons, hzero]
    simpa using ih

/-- The decimal digits of a number are read back. -/
theorem number?_decimal (number : Nat) : number? 10 (Nat.toDigits 10 number) = some number := by
  have hspell : ∀ digit < 10, hexDigit? (id digit.digitChar) = some digit := by decide
  have h := number?_spelled (by decide) hspell 0 number
  simpa using h

/-- The hexadecimal digits of a number are read back, leading zeros included. -/
theorem number?_hexadecimal (width number : Nat) :
    number? 16 (hexadecimal width number) = some number := by
  have hspell : ∀ digit < 16, hexDigit? (id digit.digitChar) = some digit := by decide
  have h := number?_spelled (by decide) hspell (width - (Nat.toDigits 16 number).length) number
  simpa [hexadecimal] using h

/-- The same holds for capital digits. -/
theorem number?_hexadecimal_upper (width number : Nat) :
    number? 16 ((hexadecimal width number).map Char.toUpper) = some number :=
  number?_spelled (by decide) (by decide) _ number

/-! ### Which digits there are -/

/-- The characters of a number are digits of its base. -/
theorem exists_digit_of_mem_toDigits (hbase : 1 < base) {number : Nat} {c : Char}
    (h : c ∈ Nat.toDigits base number) : ∃ digit < base, c = digit.digitChar := by
  induction number using Nat.strongRecOn with
  | ind number ih =>
    rw [Nat.toDigits_eq_if hbase] at h
    by_cases hsmall : number < base
    · rw [if_pos hsmall] at h
      exact ⟨number, hsmall, List.mem_singleton.mp h⟩
    · rw [if_neg hsmall] at h
      obtain h | h := List.mem_append.mp h
      · exact ih (number / base) (Nat.div_lt_self (by omega) hbase) h
      · exact ⟨number % base, Nat.mod_lt number (by omega), List.mem_singleton.mp h⟩

/-- The characters of a hexadecimal number are hexadecimal digits. -/
theorem exists_digit_of_mem_hexadecimal {width number : Nat} {c : Char}
    (h : c ∈ hexadecimal width number) : ∃ digit < 16, c = digit.digitChar := by
  obtain h | h := List.mem_append.mp h
  · exact ⟨0, by omega, List.eq_of_mem_replicate h⟩
  · exact exists_digit_of_mem_toDigits (by omega) h

/-- A hexadecimal number has as many digits as asked for, or as it needs. -/
theorem length_hexadecimal (width number : Nat) :
    (hexadecimal width number).length = max width (Nat.toDigits 16 number).length := by
  simp only [hexadecimal, List.length_append, List.length_replicate]
  omega

/-- A small number is written with just the digits that it has to have. -/
theorem length_hexadecimal_of_lt {width number : Nat} (hwidth : 0 < width)
    (h : number < 16 ^ width) : (hexadecimal width number).length = width := by
  have hle := (Nat.length_toDigits_le_iff (by omega) hwidth).mpr h
  rw [length_hexadecimal]
  omega

/-- Only zero starts with a zero. -/
theorem head?_decimal_ne_zero {number : Nat} (h : number ≠ 0) :
    (Nat.toDigits 10 number).head? ≠ some '0' := by
  induction number using Nat.strongRecOn with
  | ind number ih =>
    rw [Nat.toDigits_eq_if (by omega)]
    by_cases hsmall : number < 10
    · rw [if_pos hsmall]
      have hchars : ∀ digit < 10, digit ≠ 0 → [digit.digitChar].head? ≠ some '0' := by decide
      exact hchars number hsmall h
    · rw [if_neg hsmall, List.head?_append]
      -- The first digit is the one of the quotient, which is not zero either.
      have hrest := ih (number / 10) (Nat.div_lt_self (by omega) (by omega)) (by omega)
      cases hhead : (Nat.toDigits 10 (number / 10)).head? with
      | none => exact absurd (List.head?_eq_none_iff.mp hhead) Nat.toDigits_ne_nil
      | some c =>
        rw [hhead] at hrest
        exact hrest

end TypeExport.Text
