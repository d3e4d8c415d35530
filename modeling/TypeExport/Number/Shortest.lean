/-!
# Shortest decimals

The fewest decimal digits that identify a binary floating-point number.  A finite number is
`mantissa · 2 ^ power`; every real number in an interval around it is read as that number, and the
ends of the interval belong to it when the mantissa is even.  On the decimal grid of a given
number of digits only the two neighbours of the number have to be tried, in exact arithmetic.

* `Binary`, `Binary.ofBits` — a positive number as mantissa and power of two.
* `Binary.shortest` — its digits and the place of its decimal point.
* `FloatFormat`, `FloatFormat.render` — how digits and exponent are written down.
-/

namespace TypeExport.Number

/-- The positive number `mantissa · 2 ^ power`.  `narrow` says that the next number below is only
half as far away as the next one above. -/
structure Binary where
  mantissa : Nat
  power : Int
  narrow : Bool

/-- The number `0.d₁d₂… · 10 ^ point` for the digits `d₁d₂…` of `digits`. -/
structure Decimal where
  digits : Nat
  count : Nat
  point : Int

namespace Binary

/-- The absolute value of a finite number that is not zero, from its sixty-four bits. -/
def ofBits (bits : Nat) : Binary :=
  let fraction : Nat := bits % Nat.pow 2 52
  let exponent : Nat := bits / Nat.pow 2 52 % Nat.pow 2 11
  if exponent = 0 then ⟨fraction, -1074, false⟩
  else ⟨Nat.pow 2 52 + fraction, (exponent : Int) - 1075, fraction == 0 && decide (1 < exponent)⟩

/-- Numerator and denominator of four times the number over `10 ^ place`. -/
def scaled (b : Binary) (place : Int) : Nat × Nat :=
  let numerator := 4 * b.mantissa * Nat.pow 2 b.power.toNat * Nat.pow 10 (-place).toNat
  let denominator := Nat.pow 2 (-b.power).toNat * Nat.pow 10 place.toNat
  (numerator, denominator)

/-- The grid point `candidate · 10 ^ place` is read as this number. -/
def reads (b : Binary) (place : Int) (candidate : Nat) : Bool :=
  let (numerator, denominator) := b.scaled place
  let point := 4 * candidate * denominator
  let unit := Nat.pow 2 b.power.toNat * Nat.pow 10 (-place).toNat
  let above := numerator + 2 * unit
  let below := numerator - (if b.narrow then unit else 2 * unit)
  if b.mantissa % 2 = 0 then decide (below ≤ point) && decide (point ≤ above)
  else decide (below < point) && decide (point < above)

/-- The neighbour on the grid `10 ^ place` that is read as this number; the nearer one if both
are, and the even one if both are equally near. -/
def onGrid? (b : Binary) (place : Int) : Option Nat :=
  let (numerator, denominator) := b.scaled place
  let floor := numerator / (4 * denominator)
  let twiceRest := 2 * (numerator % (4 * denominator))
  let lowFits := b.reads place floor && floor != 0
  let highFits := b.reads place (floor + 1)
  if lowFits && highFits then
    if twiceRest < 4 * denominator then some floor
    else if 4 * denominator < twiceRest then some (floor + 1)
    else if floor % 2 = 0 then some floor else some (floor + 1)
  else if lowFits then some floor
  else if highFits then some (floor + 1)
  else none

/-- The least `point` with the number below `10 ^ point`, searched upwards from `start`. -/
def pointFrom (b : Binary) (start : Int) : Nat → Int
  | 0 => start
  | fuel + 1 =>
    let (numerator, denominator) := b.scaled start
    if numerator < 4 * denominator then start else pointFrom b (start + 1) fuel

/-- The first of the grids of `count`, `count + 1`, … digits that has a point read as the number. -/
def shortestFrom (b : Binary) (point : Int) (count : Nat) : Nat → Decimal
  | 0 => ⟨b.mantissa, count, point⟩
  | fuel + 1 =>
    match b.onGrid? (point - count) with
    | some digits =>
      if digits = Nat.pow 10 count then ⟨1, 1, point + 1⟩ else ⟨digits, count, point⟩
    | none => shortestFrom b point (count + 1) fuel

/-- The fewest digits that are read as the number, and the nearest of those. -/
def shortest (b : Binary) : Decimal :=
  b.shortestFrom (b.pointFrom (-324) 640) 1 17

end Binary

/-- How digits and exponent are written: positionally while the point lies in a range, otherwise
with an exponent of a least number of digits. -/
structure FloatFormat where
  leastPoint : Int
  greatestPoint : Int
  exponentDigits : Nat

namespace FloatFormat

/-- Digits padded with zeros on the left. -/
def padded (width n : Nat) : String :=
  let digits := Nat.repr n
  "".pushn '0' (width - digits.length) ++ digits

/-- A positive decimal. -/
def renderDecimal (format : FloatFormat) (d : Decimal) : String :=
  let digits := (padded d.count d.digits).toList
  if format.leastPoint ≤ d.point && d.point ≤ format.greatestPoint then
    if d.point ≤ 0 then
      "0." ++ "".pushn '0' (-d.point).toNat ++ String.ofList digits
    else
      let whole := digits.take d.point.toNat
      let rest := digits.drop d.point.toNat
      String.ofList whole ++ "".pushn '0' (d.point.toNat - digits.length) ++ "."
        ++ (if rest.isEmpty then "0" else String.ofList rest)
  else
    let exponent := d.point - 1
    let rest := digits.drop 1
    String.ofList (digits.take 1) ++ (if rest.isEmpty then "" else "." ++ String.ofList rest)
      ++ "e" ++ (if exponent < 0 then "-" else "+") ++ padded format.exponentDigits exponent.natAbs

/-- A number with the fewest digits that identify it. -/
def render (format : FloatFormat) (x : Float) : String :=
  let bits := x.toBits.toNat
  let sign := if bits / Nat.pow 2 63 = 1 then "-" else ""
  if bits / Nat.pow 2 52 % Nat.pow 2 11 = Nat.pow 2 11 - 1 then
    if bits % Nat.pow 2 52 = 0 then sign ++ "inf" else "nan"
  else if bits % Nat.pow 2 63 = 0 then sign ++ "0.0"
  else sign ++ format.renderDecimal (Binary.ofBits (bits % Nat.pow 2 63)).shortest

end FloatFormat

end TypeExport.Number
