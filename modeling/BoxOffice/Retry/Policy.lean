import BoxOffice.Double.Shortest
import BoxOffice.Time.Delay

/-!
# Retry policies

How often an operation is tried again, and how long to wait before each further try: the first wait
grows by a factor from try to try up to a cap. With jitter each wait is scaled by a random number
between a half and one.
-/

namespace BoxOffice

namespace Delay

/-- A delay in seconds. -/
def toSeconds (d : Delay) : Float :=
  Double.ofNat d.seconds + Double.ofNat d.subsecond / 1e9

/-- The delay nearest to a number of seconds, if it is neither negative nor out of range. -/
def ofSeconds? (x : Float) : Option Delay :=
  match Double.value x with
  | .finite negative mantissa exponent _ =>
    if negative ∧ mantissa ≠ 0 then none
    else
      let (n, d) := Double.quotient mantissa exponent
      if n / d < secondsBound then some ⟨Double.roundDiv (n * 1000000000) d⟩ else none
  | _ => none

end Delay

/-- How often an operation is tried again and how long to wait in between. -/
structure RetryPolicy where
  /-- The number of tries after the first one. -/
  maxRetries : UInt64
  /-- The wait before the second try. -/
  initialDelay : Delay
  /-- The cap on any one wait. -/
  maxDelay : Delay
  /-- The growth of the wait from try to try. -/
  multiplier : Float
  /-- Every wait is scaled by a random number between a half and one. -/
  jitter : Bool

namespace RetryPolicy

/-- Three more tries after waits of 100, 200 and 400 milliseconds. -/
def default : RetryPolicy where
  maxRetries := 3
  initialDelay := .ofMillis 100
  maxDelay := .ofSeconds 5
  multiplier := 2
  jitter := false

/-- No second try. -/
def none : RetryPolicy where
  maxRetries := 0
  initialDelay := .zero
  maxDelay := .zero
  multiplier := 1
  jitter := false

/-- The result so far times a power of `base`, by repeated squaring from the lowest bit of the
exponent; `fuel` bounds the number of bits. -/
def scaleByPower (base result : Float) : (fuel exponent : Nat) → Float
  | 0, _ => result
  | fuel + 1, exponent =>
    let result := if exponent % 2 = 1 then result * base else result
    if exponent / 2 = 0 then result
    else scaleByPower (base * base) result fuel (exponent / 2)

/-- The greatest exponent that is told apart from greater ones. -/
def maxExponent : Nat := 2147483647

/-- A power with a natural exponent. -/
def power (base : Float) (exponent : Nat) : Float :=
  scaleByPower base 1 32 (min exponent maxExponent)

/-- The lesser of two numbers, a number rather than what is none. -/
def lesser (a b : Float) : Float :=
  if a.isNaN then b else if b.isNaN then a else if b < a then b else a

/-- The wait before further try number `attempt`, counted from zero, scaled by a factor if one is
given. Where no delay has that length the cap is waited. -/
def delay (p : RetryPolicy) (attempt : Nat) (scale : Option Float) : Delay :=
  let grown := p.initialDelay.toSeconds * power p.multiplier attempt
  let capped := lesser grown p.maxDelay.toSeconds
  let scaled := match scale with
    | some factor => capped * factor
    | _ => capped
  (Delay.ofSeconds? scaled).getD p.maxDelay

/-- A scaled wait is neither much less than half the full wait nor more than all of it. -/
def isWithinJitter (p : RetryPolicy) (attempt : Nat) (scale : Float) : Bool :=
  let full := (p.delay attempt Option.none).nanos
  let scaled := (p.delay attempt (some scale)).nanos
  full ≤ 2 * scaled + 2 && scaled ≤ full

end RetryPolicy

end BoxOffice
