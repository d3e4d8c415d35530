import TypeExport.Number.Shortest

/-!
# Nearest binary numbers

The binary floating-point number that is nearest to a quotient of whole numbers.  Numbers have
fifty-three binary places or end at the place of `2 ^ -1074`; of two numbers that are equally near
the even one is chosen, and what exceeds all numbers becomes infinite.

* `roundDiv` — a quotient rounded to a whole number.
* `lastPlace` — the power of two that a quotient is rounded to.
* `nearestBits` — the bits of the nearest number.
* `ofQuotient`, `ofNat`, `ofDecimal` — the nearest number itself.
* `rational?` — the exact value of a number.
-/

namespace TypeExport.Number

/-- A quotient rounded to the nearest whole number; a half goes to the even neighbour. -/
def roundDiv (numerator denominator : Nat) : Nat :=
  let floor := numerator / denominator
  let twiceRest := 2 * (numerator % denominator)
  if twiceRest < denominator then floor
  else if denominator < twiceRest then floor + 1
  else floor + floor % 2

/-- The greatest `power` with `2 ^ power` at most a quotient.  The lengths of numerator and
denominator leave two candidates. -/
def leadingPlace (numerator denominator : Nat) : Int :=
  let power : Int := (numerator.log2 : Int) - denominator.log2
  if denominator * Nat.pow 2 power.toNat ≤ numerator * Nat.pow 2 (-power).toNat then power
  else power - 1

/-- The power of two of the last binary place of the number nearest to a quotient. -/
def lastPlace (numerator denominator : Nat) : Int :=
  max (leadingPlace numerator denominator - 52) (-1074)

/-- The bits of infinity. -/
def infinityBits : Nat := 2047 * Nat.pow 2 52

/-- The bits of the number nearest to a quotient.  A mantissa that is rounded up to the next power
of two carries over into the exponent, which stands in front of it. -/
def nearestBits (numerator denominator : Nat) : Nat :=
  if numerator = 0 then 0
  else
    let place := lastPlace numerator denominator
    let mantissa :=
      roundDiv (numerator * Nat.pow 2 (-place).toNat) (denominator * Nat.pow 2 place.toNat)
    min ((place + 1074).toNat * Nat.pow 2 52 + mantissa) infinityBits

/-- The number with a sign and the bits behind it. -/
def ofSignedBits (negative : Bool) (bits : Nat) : Float :=
  Float.ofBits (UInt64.ofNat (if negative then Nat.pow 2 63 + bits else bits))

/-- The number nearest to a quotient with a sign. -/
def ofQuotient (negative : Bool) (numerator denominator : Nat) : Float :=
  ofSignedBits negative (nearestBits numerator denominator)

/-- The number nearest to a whole number. -/
def ofNat (n : Nat) : Float :=
  ofQuotient false n 1

/-- The bits of the number nearest to `digits · 10 ^ exponent`.  The count of digits decides about
exponents far out, so that no large power is computed for them. -/
def decimalBits (digits : Nat) (exponent : Int) : Nat :=
  let size : Int := (Nat.repr digits).length + exponent
  if size < -330 then 0
  else if 330 < size then (if digits = 0 then 0 else infinityBits)
  else nearestBits (digits * Nat.pow 10 exponent.toNat) (Nat.pow 10 (-exponent).toNat)

/-- The number nearest to `digits · 10 ^ exponent` with a sign. -/
def ofDecimal (negative : Bool) (digits : Nat) (exponent : Int) : Float :=
  ofSignedBits negative (decimalBits digits exponent)

/-- Infinity with a sign. -/
def infinity (negative : Bool) : Float :=
  ofSignedBits negative infinityBits

/-- The value that is no number. -/
def notANumber : Float :=
  ofSignedBits false (infinityBits + Nat.pow 2 51)

/-- The exact value of a number, unless it is infinite or no number. -/
def rational? (x : Float) : Option Rat :=
  let bits := x.toBits.toNat
  let size := bits % Nat.pow 2 63
  if infinityBits ≤ size then none
  else
    let binary := Binary.ofBits size
    let value :=
      mkRat (binary.mantissa * Nat.pow 2 binary.power.toNat) (Nat.pow 2 (-binary.power).toNat)
    some (if Nat.pow 2 63 ≤ bits then -value else value)

end TypeExport.Number
