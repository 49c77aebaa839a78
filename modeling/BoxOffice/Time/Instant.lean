import BoxOffice.Time.Calendar

/-!
# Instants and spans

Instants are counted in seconds from 1970-01-01T00:00:00Z and nanoseconds; any second may be followed
by a leap second, which is not counted. A span may be negative. The clock knows the years -262143 to
262142; a sum outside of them is no instant.
-/

namespace BoxOffice

/-- A signed length of time, in nanoseconds. -/
structure Span where
  nanos : Int
  deriving DecidableEq, Repr

namespace Span

/-- A span of whole seconds. -/
def ofSeconds (seconds : Int) : Span :=
  ⟨seconds * 1000000000⟩

/-- A span of whole milliseconds. -/
def ofMillis (millis : Int) : Span :=
  ⟨millis * 1000000⟩

/-- The whole milliseconds of a span, towards zero. -/
def millis (span : Span) : Int :=
  span.nanos.tdiv 1000000

/-- The whole seconds of a span, towards zero. -/
def seconds (span : Span) : Int :=
  span.nanos.tdiv 1000000000

end Span

/-- A point in time. Every second from 1970-01-01T00:00:00Z on has two billion places: its own
nanoseconds, and those of a leap second that may follow it. The order of the places is the order of
time. -/
structure Instant where
  place : Int
  deriving DecidableEq, Repr

namespace Instant

instance : LT Instant := ⟨fun a b => a.place < b.place⟩

instance : LE Instant := ⟨fun a b => a.place ≤ b.place⟩

instance (a b : Instant) : Decidable (a < b) := inferInstanceAs (Decidable (a.place < b.place))

instance (a b : Instant) : Decidable (a ≤ b) := inferInstanceAs (Decidable (a.place ≤ b.place))

theorem lt_def {a b : Instant} : a < b ↔ a.place < b.place := Iff.rfl

theorem le_def {a b : Instant} : a ≤ b ↔ a.place ≤ b.place := Iff.rfl

/-- Of two instants one comes first, or they are the same. -/
theorem not_le {a b : Instant} : ¬ a ≤ b ↔ b < a := by
  rw [le_def, lt_def]
  omega

/-- The instant some nanoseconds after the beginning of a second; from a billion on they lie in a
leap second. -/
def ofParts (second : Int) (nano : Nat) : Instant :=
  ⟨second * 2000000000 + nano⟩

/-- The whole seconds from 1970-01-01T00:00:00Z, towards the past. A leap second belongs to the
second before it. -/
def second (t : Instant) : Int :=
  t.place / 2000000000

/-- The nanoseconds since the beginning of the second. -/
def nano (t : Instant) : Nat :=
  (t.place % 2000000000).toNat

theorem second_ofParts {second : Int} {nano : Nat} (h : nano < 2000000000) :
    (ofParts second nano).second = second := by
  simp only [ofParts, Instant.second]
  omega

theorem nano_ofParts {second : Int} {nano : Nat} (h : nano < 2000000000) :
    (ofParts second nano).nano = nano := by
  simp only [ofParts, Instant.nano]
  omega

/-- The instant lies in a leap second. -/
def isLeap (t : Instant) : Bool :=
  1000000000 ≤ t.nano

/-- The instant some nanoseconds after 1970-01-01T00:00:00Z, in no leap second. -/
def ofNanos (nanos : Int) : Instant :=
  ofParts (nanos / 1000000000) (nanos % 1000000000).toNat

/-- The nanoseconds since 1970-01-01T00:00:00Z. In a leap second they run on into the next one. -/
def nanos (t : Instant) : Int :=
  t.second * 1000000000 + t.nano

/-- The seconds of a day. -/
def secondsPerDay : Int := 86400

/-- The first second of a date. -/
def firstSecond (date : Date) : Int :=
  date.dayNumber * secondsPerDay

/-- The first instant that the clock knows. -/
def earliest : Instant :=
  ofParts (firstSecond { year := -262143, month := 1, day := 1 }) 0

/-- The last instant that the clock knows. -/
def latest : Instant :=
  ofNanos (firstSecond { year := 262143, month := 1, day := 1 } * 1000000000 - 1)

/-- The instant a span after this one. Leap seconds on the way are not counted. A span that leads
forwards out of a leap second begins at the same point of the second before it; a span of a second or
more that leads back begins at the same point of the second after it. -/
def shift (t : Instant) (span : Span) : Instant :=
  if t.isLeap then
    if span.seconds = 0 ∧ t.nano + span.nanos < 2000000000 then
      ofParts t.second (t.nano + span.nanos).toNat
    else if 0 < span.nanos then ofNanos (t.nanos - 1000000000 + span.nanos)
    else ofNanos (t.nanos + span.nanos)
  else ofNanos (t.nanos + span.nanos)

/-- The instant a span after this one, unless the clock does not know it. -/
def add? (t : Instant) (span : Span) : Option Instant :=
  let sum := t.shift span
  if earliest ≤ sum ∧ sum ≤ latest then some sum else none

end Instant

end BoxOffice
