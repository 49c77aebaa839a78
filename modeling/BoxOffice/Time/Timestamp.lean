import BoxOffice.Json.Form
import BoxOffice.Time.Instant

/-!
# Timestamps

The written form of an instant: `YYYY-MM-DDTHH:MM:SS`, a fraction, and an offset from UTC. It is
read with any offset and any number of fraction digits, of which the first nine count, and written
in UTC with the fewest of 0, 3, 6 and 9 fraction digits that are exact. The second 60 of any minute
is a leap second. A year outside of 0 to 9999 is written with its sign.
-/

namespace BoxOffice.Timestamp

/-- A number of exactly `width` digits at the front, and what follows it. -/
def number? (width : Nat) (cs : List Char) : Option (Nat × List Char) :=
  if cs.length < width then none
  else (Text.ofDigits? (cs.take width)).map fun n => (n, cs.drop width)

/-- What follows a given character at the front. -/
def skip? (c : Char) : List Char → Option (List Char)
  | d :: rest => if d = c then some rest else none
  | [] => none

/-- The nanoseconds of a fraction and what follows it. No point means no fraction. -/
def fraction? : List Char → Option (Nat × List Char)
  | '.' :: cs =>
    let (ds, rest) := Numeral.spanDigits cs
    let nine := ds.take 9
    (Text.ofDigits? nine).map fun n => (n * Nat.pow 10 (9 - nine.length), rest)
  | cs => some (0, cs)

/-- The seconds by which an offset is ahead of UTC; an offset ends a timestamp. -/
def offset? : List Char → Option Int
  | ['Z'] => some 0
  | sign :: cs => do
    let (hours, cs) ← number? 2 cs
    let (minutes, cs) ← number? 2 (← skip? ':' cs)
    guard (cs.isEmpty && hours < 24 && minutes < 60)
    let seconds := Int.ofNat (hours * 3600 + minutes * 60)
    match sign with
    | '+' => some seconds
    | '-' => some (-seconds)
    | _ => none
  | [] => none

/-- The instant that a timestamp names. -/
def ofChars? (cs : List Char) : Option Instant := do
  let (year, cs) ← number? 4 cs
  let (month, cs) ← number? 2 (← skip? '-' cs)
  let (day, cs) ← number? 2 (← skip? '-' cs)
  let date : Date := { year := Int.ofNat year, month, day }
  let (hour, cs) ← number? 2 (← skip? 'T' cs)
  let (minute, cs) ← number? 2 (← skip? ':' cs)
  let (second, cs) ← number? 2 (← skip? ':' cs)
  guard (date.isValid && hour < 24 && minute < 60 && second ≤ 60)
  let (nano, cs) ← fraction? cs
  let ahead ← offset? cs
  let inDay := Int.ofNat (hour * 3600 + minute * 60 + min second 59) - ahead
  return .ofParts (Instant.firstSecond date + inDay)
    (if second = 60 then 1000000000 + nano else nano)

/-- The instant that a timestamp names. -/
def parse? (s : String) : Option Instant :=
  ofChars? s.toList

/-- A year of at least four digits, with a sign when it is not between 0 and 9999. -/
def yearDigits (year : Int) : List Char :=
  if 0 ≤ year ∧ year ≤ 9999 then Text.paddedDigits 4 year.toNat
  else (if year < 0 then '-' else '+') :: Text.paddedDigits 4 year.natAbs

/-- The fraction of a second in the fewest of 0, 3, 6 and 9 digits that are exact. -/
def fractionDigits (nanos : Nat) : List Char :=
  if nanos = 0 then []
  else if nanos % 1000000 = 0 then '.' :: Text.paddedDigits 3 (nanos / 1000000)
  else if nanos % 1000 = 0 then '.' :: Text.paddedDigits 6 (nanos / 1000)
  else '.' :: Text.paddedDigits 9 nanos

/-- The timestamp of an instant in UTC. -/
def chars (t : Instant) : List Char :=
  let date := Date.ofDayNumber (t.second / Instant.secondsPerDay)
  let inDay := (t.second % Instant.secondsPerDay).toNat
  let second := if t.isLeap then inDay % 60 + 1 else inDay % 60
  yearDigits date.year ++ '-' :: Text.paddedDigits 2 date.month ++
    '-' :: Text.paddedDigits 2 date.day ++ 'T' :: Text.paddedDigits 2 (inDay / 3600) ++
    ':' :: Text.paddedDigits 2 (inDay / 60 % 60) ++ ':' :: Text.paddedDigits 2 second ++
    fractionDigits (t.nano % 1000000000) ++ ['Z']

/-- The timestamp of an instant in UTC. -/
def render (t : Instant) : String :=
  String.ofList (chars t)

instance : JsonForm Instant where
  encode t := .text (render t)
  decode j := j.text?.bind parse?

end BoxOffice.Timestamp
