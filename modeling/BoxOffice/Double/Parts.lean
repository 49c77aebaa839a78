import BoxOffice.Json.Value

/-!
# Double precision numbers taken apart

A finite double precision number is a sign, a whole number and a power of two. The parts are exact,
so that rounding and printing can be done with natural numbers.
-/

namespace BoxOffice.Double

/-- The exact value of a number. -/
inductive Value
  | nan
  | infinite (negative : Bool)
  /-- `mantissa · 2 ^ exponent`; `spaced` says that the next smaller number of the same sign is half
  as far away as the next greater one. -/
  | finite (negative : Bool) (mantissa : Nat) (exponent : Int) (spaced : Bool)

/-- The parts of a number. -/
def value (x : Float) : Value :=
  let bits := x.toBits.toNat
  let negative := bits / Nat.pow 2 63 = 1
  let power := bits / Nat.pow 2 52 % Nat.pow 2 11
  let fraction := bits % Nat.pow 2 52
  if power = 2047 then if fraction = 0 then .infinite negative else .nan
  else if power = 0 then .finite negative fraction (-1074) false
  else
    .finite negative (fraction + Nat.pow 2 52) (Int.ofNat power - 1075) (fraction = 0 && power > 1)

/-- The quotient rounded to the nearest whole number, a half to the even neighbour. -/
def roundDiv (n d : Nat) : Nat :=
  let q := n / d
  let r := 2 * (n % d)
  if r > d ∨ (r = d ∧ q % 2 = 1) then q + 1 else q

/-- `mantissa · 2 ^ exponent` as a quotient. -/
def quotient (mantissa : Nat) (exponent : Int) : Nat × Nat :=
  if exponent ≥ 0 then (mantissa * Nat.pow 2 exponent.toNat, 1)
  else (mantissa, Nat.pow 2 (-exponent).toNat)

/-- The power of two at or below a positive quotient. -/
def floorLog2 (n d : Nat) : Int :=
  let power := Int.ofNat n.log2 - Int.ofNat d.log2
  if n * Nat.pow 2 (-power).toNat < d * Nat.pow 2 power.toNat then power - 1 else power

/-- The bits of the double precision number nearest to a positive quotient, a half to the even
neighbour. A mantissa that is rounded up to the next power of two carries into the exponent, and one
that is too great for the greatest exponent makes the number infinite. -/
def nearestBits (n d : Nat) : Nat :=
  let exponent := max (floorLog2 n d - 52) (-1074)
  let mantissa := roundDiv (n * Nat.pow 2 (-exponent).toNat) (d * Nat.pow 2 exponent.toNat)
  min ((exponent + 1074).toNat * Nat.pow 2 52 + mantissa) (2047 * Nat.pow 2 52)

/-- The double precision number nearest to a quotient. -/
def nearest (n d : Nat) : Float :=
  .ofBits (UInt64.ofNat (if n = 0 then 0 else nearestBits n d))

/-- A whole number as the nearest double precision number. -/
def ofNat (n : Nat) : Float :=
  nearest n 1

/-- The whole number that the nearest double precision number to a whole number is. -/
def nearestInteger (n : Int) : Int :=
  let spacing := Nat.pow 2 (n.natAbs.log2 - 52)
  let magnitude := Int.ofNat (roundDiv n.natAbs spacing * spacing)
  if n < 0 then -magnitude else magnitude

/-- `mantissa · 10 ^ exponent` as the nearest double precision number. Far outside of the range no
power of ten has to be known. -/
def ofDecimal (mantissa : Nat) (exponent : Int) : Float :=
  let size := Int.ofNat (Text.digits mantissa).length + exponent
  if mantissa = 0 ∨ size < -400 then 0
  else if 400 < size then 1 / 0
  else nearest (mantissa * Nat.pow 10 exponent.toNat) (Nat.pow 10 (-exponent).toNat)

/-- The double precision number nearest to what a numeral writes. -/
def ofNumeral : Numeral → Float
  | .integer n => if n < 0 then -ofNat n.natAbs else ofNat n.natAbs
  | .decimal negative mantissa exponent =>
    if negative then -ofDecimal mantissa exponent else ofDecimal mantissa exponent

end BoxOffice.Double
