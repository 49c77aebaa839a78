import BoxOffice.Bookings.Interface
import BoxOffice.Cause
import BoxOffice.Registry
import BoxOffice.Reservation.Interface

/-!
# Doubles

Stand-ins that fail on purpose: a booking store that accepts nothing, faults that are laid out for
the calls to come, and releases that fail at first.
-/

namespace BoxOffice.Rehearsal

/-- A booking store that accepts nothing. If it has a winner, an attempt to store a booking brings
the winner's booking to light. -/
structure RefusingStore where
  error : Error
  winner : Option Booking
  visible : Option Booking
  /-- How often something was to be stored. -/
  creates : Nat

namespace RefusingStore

/-- A store that answers with an error. -/
def ofError (error : Error) : RefusingStore where
  error
  winner := none
  visible := none
  creates := 0

/-- The store of a database that is not there. -/
def unavailable : RefusingStore :=
  ofError Cause.bookingsUnavailable.error

/-- A store in which another request is first. -/
def racing (winner : Booking) : RefusingStore where
  error := (Cause.attemptExists winner.attempt).error
  winner := some winner
  visible := none
  creates := 0

/-- Answers a call. -/
def answer (s : RefusingStore) : (c : BookingStore.Call) → Result c.Answer × RefusingStore
  | .create _ =>
    (.error s.error,
      { s with creates := s.creates + 1, visible := s.winner.or s.visible })
  | .get id => (.ok (s.visible.filter fun b => b.id = id), s)
  | .findByAttempt attempt => (.ok (s.visible.filter fun b => b.attempt = attempt), s)
  | .transition id _ _ => (refuse (.bookingMissing id), s)

end RefusingStore

/-- A fault laid out for a call: it fails instead of being made, or after it was made. -/
structure Fault where
  error : Error
  after : Bool

/-- The faults laid out for the calls to come, by the names of the calls, and the calls made. -/
structure FaultPlan where
  queues : Registry String (List (Option Fault))
  /-- The names of the calls made, the last one first. -/
  calls : List String

namespace FaultPlan

/-- No faults and no calls. -/
def empty : FaultPlan where
  queues := ∅
  calls := []

/-- Writes down a call and takes what is laid out for it. -/
def next (p : FaultPlan) (name : String) : Option Fault × FaultPlan :=
  let p := { p with calls := name :: p.calls }
  match p.queues.get? name with
  | some (fault :: rest) => (fault, { p with queues := p.queues.set name rest })
  | _ => (none, p)

end FaultPlan

/-- The name of a call to the booking store. -/
def storeCallName : BookingStore.Call → String
  | .create _ => "store.create"
  | .get _ => "store.get"
  | .findByAttempt _ => "store.find_by_attempt"
  | .transition _ _ _ => "store.transition"

/-- The name of a call to the inventory. -/
def reservationCallName : Reservations.Call → String
  | .reserve _ => "protocol.validate_and_reserve"
  | .release _ => "protocol.release"
  | .confirm _ => "protocol.confirm_sold"
  | .availability _ => "protocol.availability"

/-- Releases that fail at first, and how often the inventory was called. -/
structure FlakyReleases where
  /-- How many of the next releases fail. -/
  failing : Nat
  reserves : Nat
  releases : Nat

end BoxOffice.Rehearsal
