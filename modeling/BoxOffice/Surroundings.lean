import BoxOffice.Journal.Record
import BoxOffice.Program.Basic

/-!
# Surroundings

What every part of the box office may ask of the world around it: the time, a line in the journal,
a wait, a random number, a fresh identifier. An instant that the clock does not know ends the
program: that call has no reply.
-/

namespace BoxOffice

namespace Surroundings

/-- The calls to the world around. -/
inductive Call
  /-- What time is it? -/
  | now
  /-- Write down an entry. -/
  | record (entry : Entry)
  /-- Let some time pass. -/
  | wait (delay : Delay)
  /-- A random number between a half and one. -/
  | draw
  /-- An identifier that no booking has. -/
  | freshBooking
  /-- Give up: the clock does not know an instant that is needed. -/
  | outOfTime

/-- What each call is answered with. -/
def Call.Reply : Call → Type
  | now => Instant
  | record _ => Unit
  | wait _ => Unit
  | draw => Float
  | freshBooking => BookingId
  | outOfTime => Empty

end Surroundings

/-- The world around the box office. -/
def Surroundings : Interface where
  Call := Surroundings.Call
  Reply := Surroundings.Call.Reply

/-- Computations that can make calls to the world around. -/
class Surrounded (m : Type → Type) where
  call (c : Surroundings.Call) : m c.Reply

instance {I : Interface} [Offers I Surroundings] : Surrounded (Program I) where
  call c := Offers.call (J := Surroundings) c

instance {ε : Type} {m : Type → Type} [Monad m] [Surrounded m] : Surrounded (ExceptT ε m) where
  call c := ExceptT.lift (Surrounded.call c)

namespace Surroundings

variable {m : Type → Type} [Surrounded m]

/-- The time. -/
def now : m Instant :=
  Surrounded.call Call.now

/-- Writes a notice into the journal. -/
def note (n : Notice) : m Unit :=
  Surrounded.call (Call.record (.notice n))

/-- Writes a measurement into the journal. -/
def measure (measurement : Measurement) : m Unit :=
  Surrounded.call (Call.record (.measured measurement))

/-- Counts one. -/
def count (c : Counter) : m Unit :=
  measure (.count c 1)

/-- Lets some time pass. -/
def wait (d : Delay) : m Unit :=
  Surrounded.call (Call.wait d)

/-- A random number between a half and one. -/
def draw : m Float :=
  Surrounded.call Call.draw

/-- An identifier that no booking has. -/
def freshBooking : m BookingId :=
  Surrounded.call Call.freshBooking

/-- The instant a span after now; without one the program ends. -/
def later [Monad m] (now : Instant) (span : Span) : m Instant :=
  match now.add? span with
  | some t => pure t
  | none => do
    let nothing : Empty ← Surrounded.call Call.outOfTime
    nomatch nothing

end Surroundings

end BoxOffice
