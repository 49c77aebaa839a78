import BoxOffice.Bookings.Interface
import BoxOffice.Database.Session

/-!
# The booking store in the database

Answers the calls to the booking store with one statement each; a change of status that hits no row
reads the booking again to tell why.
-/

namespace BoxOffice.DatabaseStore

open Database

/-- The booking that a statement gives, if any. -/
def lookUp (s : Statement) : Service DatabaseWorld (Option Booking) := do
  match ← fetchOptional s BookingRow.ofRow with
  | none => return none
  | some row => some <$> interpret row.read

/-- Stores a pending booking. -/
def create (draft : BookingDraft) : Service DatabaseWorld Booking := do
  let now ← Surroundings.now
  let id ← Surroundings.freshBooking
  let row := BookingRow.write (Booking.ofDraft id draft now)
  let stored ← fetchOne (.insertBooking row) BookingRow.ofRow
  let booking ← interpret stored.read
  Surroundings.note .bookingInserted
  return booking

/-- Changes a booking's status from the expected one. -/
def transition (id : BookingId) (expected target : BookingStatus) :
    Service DatabaseWorld Booking := do
  let now ← Surroundings.now
  match ← lookUp (.transitionBooking id expected target now) with
  | some changed => return changed
  | none =>
    match ← lookUp (.selectBooking id) with
    | none => throw (Cause.bookingMissing id).error
    | some current => throw (Cause.bookingElsewhere id current.status expected).error

/-- Answers a call to the booking store. -/
def answer : (c : BookingStore.Call) → Program DatabaseWorld (Result c.Answer)
  | .create draft => (create draft).run
  | .get id => (lookUp (.selectBooking id)).run
  | .findByAttempt attempt => (lookUp (.selectBookingOfAttempt attempt)).run
  | .transition id expected target => (transition id expected target).run

end BoxOffice.DatabaseStore
