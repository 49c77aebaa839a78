import BoxOffice.Double.Parts

/-!
# The shortest text of a double precision number

The fewest decimal digits that are nearer to the number than to any other, and of those the nearest.
They are written plainly, with at least one place, between a ten-thousandth and 10^16, and with an
exponent outside of that.
-/

namespace BoxOffice.Double

/-- The decimal `digits · 10 ^ power` lies so near to `mantissa · 2 ^ exponent` that it reads back
as that number. Both are counted in quarters of the last binary place; an end of the interval
belongs to the number whose mantissa is even. -/
def readsBack (mantissa : Nat) (exponent : Int) (spaced : Bool) (digits : Nat) (power : Int) :
    Bool :=
  let quarter := exponent - 2
  let n := digits * Nat.pow 10 power.toNat * Nat.pow 2 (-quarter).toNat
  let d := Nat.pow 10 (-power).toNat * Nat.pow 2 quarter.toNat
  let low := (4 * mantissa - if spaced then 1 else 2) * d
  let high := (4 * mantissa + 2) * d
  if mantissa % 2 = 0 then low ≤ n && n ≤ high else low < n && n < high

/-- The digits of a positive number and the power of ten of the last of them: the first grid of at
most `fuel` more digits, after `count`, that has a point near enough. -/
def searchDigits (mantissa : Nat) (exponent : Int) (spaced : Bool) (size : Int) :
    (fuel count : Nat) → Nat × Int
  | 0, count => (0, size - count)
  | fuel + 1, count =>
    let power := size - count
    let (p, q) := quotient mantissa exponent
    let (n, d) :=
      if power ≥ 0 then (p, q * Nat.pow 10 power.toNat) else (p * Nat.pow 10 (-power).toNat, q)
    let low := n / d
    let near := roundDiv n d
    let far := if near = low then low + 1 else low
    if readsBack mantissa exponent spaced near power then (near, power)
    else if readsBack mantissa exponent spaced far power then (far, power)
    else searchDigits mantissa exponent spaced size fuel (count + 1)

/-- The power of ten above a positive number: the number is below `10 ^ size`, and not below
`10 ^ (size - 1)`. -/
def decimalSize (mantissa : Nat) (exponent : Int) : Int :=
  let (p, q) := quotient mantissa exponent
  if p ≥ q then Int.ofNat (Text.digits (p / q)).length
  else
    -- the number of zeros behind the point
    let zeros := (Text.digits (q / p)).length - 1
    if p * Nat.pow 10 zeros ≥ q then 1 - Int.ofNat zeros
    else -Int.ofNat zeros

/-- Trailing zeros moved from the digits into the power. -/
def stripZeros : (fuel : Nat) → Nat → Int → Nat × Int
  | 0, digits, power => (digits, power)
  | fuel + 1, digits, power =>
    if digits ≠ 0 ∧ digits % 10 = 0 then stripZeros fuel (digits / 10) (power + 1)
    else (digits, power)

/-- The digits of a magnitude as text. -/
def magnitudeChars (mantissa : Nat) (exponent : Int) (spaced : Bool) : List Char :=
  if mantissa = 0 then "0.0".toList
  else
    let size := decimalSize mantissa exponent
    let (digits, power) := searchDigits mantissa exponent spaced size 17 1
    let (digits, power) := stripZeros 17 digits power
    let ds := Text.digits digits
    let size := Int.ofNat ds.length + power
    if size < -3 ∨ 16 < size then
      ds.take 1 ++ (if ds.length = 1 then [] else '.' :: ds.drop 1) ++
        'e' :: Text.integerDigits (size - 1)
    else if size ≤ 0 then
      '0' :: '.' :: List.replicate size.natAbs '0' ++ ds
    else if Int.ofNat ds.length ≤ size then
      ds ++ List.replicate (size - ds.length).toNat '0' ++ ".0".toList
    else ds.take size.toNat ++ '.' :: ds.drop size.toNat

/-- The shortest text of a number. -/
def shortest (x : Float) : String :=
  match value x with
  | .nan => "NaN"
  | .infinite negative => if negative then "-inf" else "inf"
  | .finite negative mantissa exponent spaced =>
    String.ofList ((if negative then ['-'] else []) ++ magnitudeChars mantissa exponent spaced)

end BoxOffice.Double
