import BoxOffice.Surroundings

/-!
# The stage

Surroundings for a rehearsal: a clock that moves only when it is told to, waits that take no real
time, and a journal that is kept.
-/

namespace BoxOffice.Rehearsal

/-- The clock does not know an instant that a service needs; the service breaks down. -/
inductive Breakdown
  | outOfTime
  deriving DecidableEq, Repr

/-- The wording of a breakdown. -/
def Breakdown.message : Breakdown → String
  | .outOfTime => "`DateTime + TimeDelta` overflowed"

/-- Steps on a state that may break down; the state that was reached is kept also then. -/
abbrev Play (σ : Type) : Type → Type :=
  ExceptT Breakdown (StateM σ)

/-- The state of the world around the box office. -/
structure Stage where
  now : Instant
  /-- How long has been waited. -/
  elapsed : Delay
  /-- The journal, the last entry first. -/
  journal : List Entry
  /-- How many entries of the journal have been looked through for notices. -/
  read : Nat
  /-- How many identifiers have been made. -/
  made : Nat

namespace Stage

/-- A stage on which nothing has happened yet. -/
def start (now : Instant) : Stage where
  now
  elapsed := .zero
  journal := []
  read := 0
  made := 0

/-- The journal in order. -/
def entries (s : Stage) : List Entry :=
  s.journal.reverse

/-- The lines of the log that have not been looked at yet. -/
def unread (s : Stage) : List String :=
  Journal.lines (s.entries.drop s.read)

/-- The stage after its log has been looked at. -/
def markRead (s : Stage) : Stage :=
  { s with read := s.journal.length }

/-- The longest wait: thirty years of 365 days. -/
def longestWait : Delay := .ofSeconds 946080000

/-- How long a wait of some length lasts. -/
def lasting (delay : Delay) : Delay :=
  if delay ≤ longestWait then delay else longestWait

/-- A wait ends at a whole millisecond. -/
def waitUntil (elapsed delay : Delay) : Delay :=
  ⟨(elapsed.nanos + (lasting delay).nanos + 999999) / 1000000 * 1000000⟩

/-- The time between two turns of something that recurs. A time too long to be counted on from the
present becomes the longest wait. -/
def recurring (interval : Delay) : Delay :=
  if interval.seconds < 9223372036854775807 then interval else longestWait

/-- Where the numbers of fresh identifiers begin: far from those that are written by hand. -/
def firstNumber : Nat := 0x9d27f3b6a81c4e5

/-- The identifier that is made next. -/
def nextBooking (s : Stage) : BookingId :=
  ⟨Uuid.random (firstNumber + s.made)⟩

/-- The stage after an identifier was made. -/
def markMade (s : Stage) : Stage :=
  { s with made := s.made + 1 }

/-- Answers a call to the surroundings. -/
def answer (s : Stage) : (c : Surroundings.Call) → Except Breakdown c.Reply × Stage
  | .now => (.ok s.now, s)
  | .record entry => (.ok (), { s with journal := entry :: s.journal })
  | .wait delay => (.ok (), { s with elapsed := waitUntil s.elapsed delay })
  | .draw => (.ok (0.75 : Float), s)
  | .freshBooking => (.ok s.nextBooking, s.markMade)
  | .outOfTime => (.error .outOfTime, s)

end Stage

end BoxOffice.Rehearsal
