import TypeExport.Number.Shortest

/-!
# Dates and times

A date, alone or with a time of day and an offset from universal time.

* `daysIn` — the length of a month.
* `Moment`, `TimeOfDay` — the values, which exist in the calendar and on the clock.
* `Moment.render` — the standard written form.
* `Moment.literal` — the form used in messages that show a value with its type.
-/

namespace TypeExport

/-- A year with a leap day. -/
def isLeapYear (year : Nat) : Bool :=
  year % 4 == 0 && (year % 100 != 0 || year % 400 == 0)

/-- The days of a month, which is counted from one. -/
def daysIn (year month : Nat) : Nat :=
  match month with
  | 2 => if isLeapYear year then 29 else 28
  | 4 | 6 | 9 | 11 => 30
  | _ => 31

/-- A time of day; the offset counts minutes ahead of universal time, and is less than a day. -/
structure TimeOfDay where
  hour : Nat
  minute : Nat
  second : Nat
  microsecond : Nat := 0
  offset? : Option Int := none
  hour_lt : hour < 24 := by decide
  minute_lt : minute < 60 := by decide
  second_lt : second < 60 := by decide
  offset_lt : (offset?.getD 0).natAbs < 1440 := by decide
deriving DecidableEq, Repr

/-- A date of the calendar, with a time of day where one is given.  Years have four digits at
most. -/
structure Moment where
  year : Nat
  month : Nat
  day : Nat
  time? : Option TimeOfDay := none
  year_mem : 1 ≤ year ∧ year ≤ 9999 := by decide
  month_mem : 1 ≤ month ∧ month ≤ 12 := by decide
  day_mem : 1 ≤ day ∧ day ≤ daysIn year month := by decide
deriving DecidableEq, Repr

open Number.FloatFormat (padded)

namespace TimeOfDay

/-- An offset as sign, hours and minutes. -/
def renderOffset (offset : Int) : String :=
  (if offset < 0 then "-" else "+") ++ padded 2 (offset.natAbs / 60) ++ ":"
    ++ padded 2 (offset.natAbs % 60)

/-- The time of day; a fraction of a second is written only if there is one. -/
def render (time : TimeOfDay) : String :=
  padded 2 time.hour ++ ":" ++ padded 2 time.minute ++ ":" ++ padded 2 time.second
    ++ (if time.microsecond = 0 then "" else "." ++ padded 6 time.microsecond)
    ++ (match time.offset? with
      | none => ""
      | some offset => renderOffset offset)

/-- An offset with its type; a negative one counts back from the next day. -/
def literalOffset (offset : Int) : String :=
  if offset = 0 then "datetime.timezone.utc"
  else
    let days := if offset < 0 then "days=-1, " else ""
    let seconds := if offset < 0 then 86400 + 60 * offset else 60 * offset
    "datetime.timezone(datetime.timedelta(" ++ days ++ "seconds=" ++ toString seconds ++ "))"

/-- The arguments that a time of day adds to a date; trailing zeros are left out. -/
def literalArguments (time : TimeOfDay) : List String :=
  [toString time.hour, toString time.minute]
    ++ (if time.second = 0 && time.microsecond = 0 then [] else [toString time.second])
    ++ (if time.microsecond = 0 then [] else [toString time.microsecond])
    ++ (match time.offset? with
      | none => []
      | some offset => ["tzinfo=" ++ literalOffset offset])

end TimeOfDay

namespace Moment

/-- The written form, with `separator` between date and time. -/
def render (separator : String) (moment : Moment) : String :=
  padded 4 moment.year ++ "-" ++ padded 2 moment.month ++ "-" ++ padded 2 moment.day
    ++ (match moment.time? with
      | none => ""
      | some time => separator ++ time.render)

/-- The form that shows a value with its type. -/
def literal (moment : Moment) : String :=
  let date := [toString moment.year, toString moment.month, toString moment.day]
  match moment.time? with
  | none => "datetime.date(" ++ ", ".intercalate date ++ ")"
  | some time => "datetime.datetime(" ++ ", ".intercalate (date ++ time.literalArguments) ++ ")"

end Moment

end TypeExport
