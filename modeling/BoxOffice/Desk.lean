import BoxOffice.Bookings.Interface
import BoxOffice.Reservation.Interface
import BoxOffice.Retry.Loop
import BoxOffice.Saga

/-!
# The front desk

Carries out booking attempts: the saga says what to do next, the inventory holds units, the store
keeps bookings. No lock spans an attempt; a hold that is left behind lapses by itself, and giving
back a hold may be repeated at will.
-/

namespace BoxOffice

/-- What the front desk works with. -/
abbrev DeskWorld : Interface :=
  Reservations.sum (BookingStore.sum Surroundings)

namespace Desk

/-- Repeats a call while its error may go away by itself. -/
def retryTransient {α : Type} (policy : RetryPolicy) (call : Service DeskWorld α) :
    Service DeskWorld α :=
  ExceptT.mk (policy.retry Error.isTransient call.run)

/-- Checks a request and looks for a booking of its attempt. -/
def validate (request : BookingRequest) : Program DeskWorld SagaEvent := do
  if request.user.value ≤ 0 then
    return .rejected (Cause.invalidUser request.user).error
  match ← (BookingStore.findByAttempt request.attempt).run with
  | .ok (some existing) =>
    Surroundings.note .bookingReplayed
    return .replayed existing
  | .ok none => return .validated
  | .error e => return .rejected e

/-- Asks for the reservation that a request needs. -/
def reserve (request : BookingRequest) : Program DeskWorld SagaEvent := do
  match ← (Reservations.askReserve request.reservation).run with
  | .ok token => return .reserved token
  | .error e =>
    Surroundings.note .reservationRefused
    return .reserveFailed e

/-- Stores a pending booking for what is held. If the store will not have it, perhaps another
request of the same attempt was first. -/
def persist (token : Token) (user : UserId) : Program DeskWorld SagaEvent := do
  match ← (BookingStore.create (BookingDraft.ofToken token user)).run with
  | .ok booking => return .persisted booking
  | .error e =>
    if e.kind = .invalidArgument then
      match ← (BookingStore.findByAttempt token.hold).run with
      | .ok (some existing) =>
        Surroundings.note .attemptStoredElsewhere
        return .duplicateAttempt existing
      | _ => return .persistFailed e
    else return .persistFailed e

/-- Gives back what is held, trying again while the policy allows. -/
def compensate (policy : RetryPolicy) (token : Token) : Program DeskWorld SagaEvent := do
  Surroundings.note .insertFailed
  match ← (retryTransient policy (Reservations.askRelease token)).run with
  | .ok () =>
    Surroundings.count (.compensation true)
    return .released
  | .error e =>
    Surroundings.count (.compensation false)
    Surroundings.note .compensationFailed
    return .releaseFailed e

/-- Carries out a step and tells its outcome. -/
def perform (policy : RetryPolicy) (request : BookingRequest) :
    SagaStep → Program DeskWorld SagaEvent
  | .reserve => reserve request
  | .persist token => persist token request.user
  | .release token => compensate policy token

/-- Writes down how an attempt ended. -/
def conclude (saga : Saga) (answer : Result Booking) : Program DeskWorld Unit :=
  match saga.state, answer with
  | .committed, .ok booking => do
    Surroundings.count (.booking booking.status)
    Surroundings.note .bookingCommitted
  | _, .error e =>
    Surroundings.note (if e.kind = .conflict then .bookingRejected else .bookingFailed)
  | _, .ok _ => Surroundings.note .sagaCompleted

/-- Carries out a step and all that follow, and answers the caller. -/
def drive (policy : RetryPolicy) (request : BookingRequest) (saga : Saga) (step : SagaStep) :
    Program DeskWorld (Result Booking) := do
  let event ← perform policy request step
  match _h : saga.handle event with
  | (next, .perform step) => drive policy request next step
  | (next, .complete answer) =>
    conclude next answer
    return answer
termination_by saga.state.rank
decreasing_by exact Saga.rank_handle_lt _h

/-- Reserves a unit and records a pending booking. An attempt that has a booking already is answered
with it. -/
def book (policy : RetryPolicy) (request : BookingRequest) : Program DeskWorld (Result Booking) := do
  let request := request.normalized
  let saga := Saga.start request.attempt
  match saga.handle (← validate request) with
  | (next, .perform step) => drive policy request next step
  | (next, .complete answer) =>
    conclude next answer
    return answer

/-- Looks up a booking that has to be there. -/
def load (id : BookingId) : Service DeskWorld Booking := do
  match ← BookingStore.get id with
  | some booking => return booking
  | none => throw (Cause.bookingMissing id).error

/-- Changes the status of a pending booking, trying again while the policy allows. A booking that
reached the target by then is as good. -/
def settle (policy : RetryPolicy) (id : BookingId) (target : BookingStatus) :
    Service DeskWorld Booking := do
  match ← (retryTransient policy (BookingStore.transition id .pending target)).outcome with
  | .ok booking => return booking
  | .error e =>
    if e.kind = .conflict then
      let booking ← load id
      if booking.status = target then return booking
    throw e

/-- Sells what a pending booking holds and makes the booking confirmed. If the hold is lost the
booking becomes cancelled. -/
def confirm (policy : RetryPolicy) (id : BookingId) : Service DeskWorld Booking := do
  let booking ← load id
  match booking.status with
  | .confirmed => return booking
  | .cancelled => throw (Cause.bookingCancelled id).error
  | .pending =>
    match ← (Reservations.askConfirm booking.token).outcome with
    | .ok () =>
      let confirmed ← settle policy id .confirmed
      Surroundings.count (.booking .confirmed)
      Surroundings.note .bookingConfirmed
      return confirmed
    | .error e =>
      if e.kind = .conflict then
        Surroundings.note .holdLost
        match ← (settle policy id .cancelled).outcome with
        | .ok _ => Surroundings.count (.booking .cancelled)
        | .error _ => Surroundings.note .cancelAfterLossFailed
      throw e

/-- Gives back what a pending booking holds and makes the booking cancelled. -/
def cancel (policy : RetryPolicy) (id : BookingId) : Service DeskWorld Booking := do
  let booking ← load id
  match booking.status with
  | .cancelled => return booking
  | .confirmed => throw (Cause.bookingConfirmed id).error
  | .pending =>
    retryTransient policy (Reservations.askRelease booking.token)
    let cancelled ← settle policy id .cancelled
    Surroundings.count (.booking .cancelled)
    Surroundings.note .bookingCancelled
    return cancelled

end Desk

end BoxOffice
