import BoxOffice.Bookings.Interface
import BoxOffice.Cause
import BoxOffice.Registry

/-!
# The booking store in memory

Bookings by identifier, with an index of the attempts that made them.
-/

namespace BoxOffice

/-- A booking store in memory. -/
structure MemoryStore where
  bookings : Registry BookingId Booking
  byAttempt : Registry HoldId BookingId

namespace MemoryStore

/-- A store without bookings. -/
def empty : MemoryStore where
  bookings := ∅
  byAttempt := ∅

/-- The booking of an attempt. -/
def findByAttempt? (s : MemoryStore) (attempt : HoldId) : Option Booking :=
  (s.byAttempt.get? attempt).bind s.bookings.get?

/-- Stores a pending booking, unless its attempt has one. -/
def create (s : MemoryStore) (id : BookingId) (now : Instant) (draft : BookingDraft) :
    Result Booking × MemoryStore :=
  if s.byAttempt.contains draft.attempt then (refuse (.attemptExists draft.attempt), s)
  else
    let booking := Booking.ofDraft id draft now
    (.ok booking,
      { bookings := s.bookings.set id booking, byAttempt := s.byAttempt.set draft.attempt id })

/-- Changes a booking's status, if it is the expected one. -/
def transition (s : MemoryStore) (id : BookingId) (now : Instant)
    (expected target : BookingStatus) : Result Booking × MemoryStore :=
  match s.bookings.get? id with
  | none => (refuse (.bookingMissing id), s)
  | some booking =>
    if booking.status ≠ expected then
      (refuse (.bookingElsewhere id booking.status expected), s)
    else
      let changed := { booking with status := target, updatedAt := now }
      (.ok changed, { s with bookings := s.bookings.modify id fun _ => changed })

/-- Answers a call made at an instant; a booking that is stored gets the identifier `fresh`. -/
def answer (s : MemoryStore) (fresh : BookingId) (now : Instant) :
    (c : BookingStore.Call) → Result c.Answer × MemoryStore
  | .create draft => s.create fresh now draft
  | .get id => (.ok (s.bookings.get? id), s)
  | .findByAttempt attempt => (.ok (s.findByAttempt? attempt), s)
  | .transition id expected target => s.transition id now expected target

end MemoryStore

end BoxOffice
