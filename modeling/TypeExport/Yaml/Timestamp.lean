import TypeExport.Moment

/-!
# Timestamps

A date with all its digits, or a date with a time of day and perhaps an offset.  A text may have
the form of a timestamp while the calendar has no such day.

* `TimestampForm` — the numbers that a timestamp is written with.
* `isTimestamp` — a plain scalar that is read as a timestamp.
* `timestamp?` — the moment that a text denotes.
-/

namespace TypeExport.Yaml

/-- The numbers that a time of day is written with. -/
structure TimeForm where
  hour : Nat
  minute : Nat
  second : Nat
  microsecond : Nat
  offset? : Option Int

/-- The numbers that a timestamp is written with. -/
structure TimestampForm where
  year : Nat
  month : Nat
  day : Nat
  time? : Option TimeForm := none

/-- The time of day of some numbers, if a clock shows it. -/
def TimeForm.timeOfDay? (form : TimeForm) : Option TimeOfDay :=
  let ⟨hour, minute, second, microsecond, offset?⟩ := form
  if hclock : hour < 24 ∧ minute < 60 ∧ second < 60 then
    if hoffset : (offset?.getD 0).natAbs < 1440 then
      some {
        hour, minute, second, microsecond, offset?
        hour_lt := hclock.1
        minute_lt := hclock.2.1
        second_lt := hclock.2.2
        offset_lt := hoffset }
    else none
  else none

/-- The moment of some numbers, if the calendar has that day. -/
def TimestampForm.moment? (form : TimestampForm) : Option Moment := do
  let time? ←
    match form.time? with
    | none => some none
    | some time => time.timeOfDay?.map some
  if hmonth : (1 ≤ form.year ∧ form.year ≤ 9999) ∧ 1 ≤ form.month ∧ form.month ≤ 12 then
    if hday : 1 ≤ form.day ∧ form.day ≤ daysIn form.year form.month then
      return {
        year := form.year
        month := form.month
        day := form.day
        time?
        year_mem := hmonth.1
        month_mem := hmonth.2
        day_mem := hday }
    else none
  else none

/-- A decimal digit. -/
def isDigit (c : Char) : Bool :=
  decide ('0' ≤ c) && decide (c ≤ '9')

/-- A number of at least `least` and at most `most` decimal digits, as many as there are. -/
def digits? (least most : Nat) (text : List Char) : Option (Nat × List Char) :=
  let found := (text.take most).takeWhile isDigit
  if found.length < least then none
  else some (found.foldl (fun n c => n * 10 + (c.toNat - '0'.toNat)) 0, text.drop found.length)

/-- The rest of a text behind a character. -/
def behindChar? (c : Char) : List Char → Option (List Char)
  | first :: rest => if first = c then some rest else none
  | [] => none

/-- Millionths of a second from the digits behind the point. -/
def microseconds (digits : List Char) : Nat :=
  (digits.take 6 ++ List.replicate (6 - digits.length) '0').foldl
    (fun n c => n * 10 + (c.toNat - '0'.toNat)) 0

/-- The offset at the end of a timestamp, in minutes; blanks may stand before it. -/
def offset? (text : List Char) : Option (Option Int) :=
  match text.dropWhile fun c => c == ' ' || c == '\t' with
  | [] => if text.isEmpty then some none else none
  | ['Z'] => some (some 0)
  | sign :: rest => do
    if sign != '+' && sign != '-' then none
    else
      let (hours, rest) ← digits? 1 2 rest
      let minutes ←
        match rest with
        | [] => some 0
        | rest => do
          let (minutes, rest) ← digits? 2 2 (← behindChar? ':' rest)
          if rest.isEmpty then some minutes else none
      let total : Int := 60 * hours + minutes
      return some (if sign == '-' then -total else total)

/-- The time of day of a timestamp. -/
def timeForm? (text : List Char) : Option TimeForm := do
  let (hour, rest) ← digits? 1 2 text
  let (minute, rest) ← digits? 2 2 (← behindChar? ':' rest)
  let (second, rest) ← digits? 2 2 (← behindChar? ':' rest)
  let (fraction, rest) :=
    match rest with
    | '.' :: rest => (rest.takeWhile isDigit, rest.dropWhile isDigit)
    | rest => ([], rest)
  let offset? ← offset? rest
  return { hour, minute, second, microsecond := microseconds fraction, offset? }

/-- The time of day behind a date: behind a letter, or behind blanks. -/
def timeBehindDate? (text : List Char) : Option TimeForm :=
  match text with
  | 'T' :: rest | 't' :: rest => timeForm? rest
  | ' ' :: _ | '\t' :: _ => timeForm? (text.dropWhile fun c => c == ' ' || c == '\t')
  | _ => none

/-- The numbers of a text that has the form of a timestamp. -/
def timestampForm? (text : List Char) : Option TimestampForm := do
  let (year, rest) ← digits? 4 4 text
  let (month, rest) ← digits? 1 2 (← behindChar? '-' rest)
  let (day, rest) ← digits? 1 2 (← behindChar? '-' rest)
  match rest with
  | [] => return { year, month, day }
  | rest => do
    let time ← timeBehindDate? rest
    return { year, month, day, time? := some time }

/-- A plain scalar is a timestamp if it has the form of one; a date alone needs all its digits. -/
def isTimestamp (text : List Char) : Bool :=
  match timestampForm? text with
  | none => false
  | some form => form.time?.isSome || text.length == 10

/-- The moment that a text denotes. -/
def timestamp? (text : List Char) : Option Moment :=
  (timestampForm? text).bind (·.moment?)

end TypeExport.Yaml
