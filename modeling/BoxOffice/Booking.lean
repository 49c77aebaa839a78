import BoxOffice.Label
import BoxOffice.Reservation
import BoxOffice.Text.Blank

/-!
# Bookings

A booking records a purchase: pending while its hold waits for payment, then confirmed or
cancelled. It keeps enough of its reservation to rebuild the token: `token_ofDraft_ofToken` says so.
-/

namespace BoxOffice

/-- The stages of a booking. -/
inductive BookingStatus
  /-- A place is held, payment is outstanding. -/
  | pending
  /-- The place is sold. -/
  | confirmed
  /-- The place was given back or lost. -/
  | cancelled
  deriving DecidableEq, Repr

instance : Labelled BookingStatus where
  typeName := "BookingStatus"
  values := [.pending, .confirmed, .cancelled]
  label
    | .pending => "PENDING"
    | .confirmed => "CONFIRMED"
    | .cancelled => "CANCELLED"

instance : LawfulLabelled BookingStatus := ⟨fun a => by cases a <;> rfl⟩

instance : JsonForm BookingStatus := Labelled.toForm

/-- A purchase that is about to be recorded. -/
structure BookingDraft where
  attempt : HoldId
  event : EventId
  category : CategoryId
  seat : Option SeatId
  seatLabel : Option String
  user : UserId
  holdExpiresAt : Instant
  deriving DecidableEq

namespace BookingDraft

/-- The purchase of what a token holds. -/
def ofToken (token : Token) (user : UserId) : BookingDraft where
  attempt := token.hold
  event := token.event
  category := token.category
  seat := token.seatId
  seatLabel := token.seatLabel
  user
  holdExpiresAt := token.expiresAt

/-- The fields of a draft in JSON. -/
def record : RecordForm BookingDraft BookingDraft :=
  RecordForm.start BookingDraft.mk
    |>.field "attempt_id" BookingDraft.attempt
    |>.field "event_id" BookingDraft.event
    |>.field "category_id" BookingDraft.category
    |>.field "ticket_id" BookingDraft.seat
    |>.field "seat_label" BookingDraft.seatLabel
    |>.field "user_id" BookingDraft.user
    |>.field "hold_expires_at" BookingDraft.holdExpiresAt

instance : JsonForm BookingDraft := record.toForm

end BookingDraft

/-- A recorded purchase. -/
structure Booking where
  id : BookingId
  /-- The attempt that made the booking, which is also its hold. -/
  attempt : HoldId
  event : EventId
  category : CategoryId
  seat : Option SeatId
  seatLabel : Option String
  user : UserId
  status : BookingStatus
  holdExpiresAt : Instant
  createdAt : Instant
  updatedAt : Instant
  deriving DecidableEq

namespace Booking

/-- The pending booking made from a draft. -/
def ofDraft (id : BookingId) (draft : BookingDraft) (now : Instant) : Booking where
  id
  attempt := draft.attempt
  event := draft.event
  category := draft.category
  seat := draft.seat
  seatLabel := draft.seatLabel
  user := draft.user
  status := .pending
  holdExpiresAt := draft.holdExpiresAt
  createdAt := now
  updatedAt := now

/-- The token of the reservation behind the booking. -/
def token (b : Booking) : Token where
  hold := b.attempt
  event := b.event
  category := b.category
  unit :=
    match b.seat, b.seatLabel with
    | some id, some label => .seat id label
    | _, _ => .stock
  expiresAt := b.holdExpiresAt

/-- A booking recorded for a token gives the token back. -/
theorem token_ofDraft_ofToken (id : BookingId) (t : Token) (user : UserId) (now : Instant) :
    (ofDraft id (BookingDraft.ofToken t user) now).token = t := by
  obtain ⟨hold, event, category, unit, expiresAt⟩ := t
  cases unit <;> rfl

/-- The fields of a booking in JSON. -/
def record : RecordForm Booking Booking :=
  RecordForm.start Booking.mk
    |>.field "id" Booking.id
    |>.field "attempt_id" Booking.attempt
    |>.field "event_id" Booking.event
    |>.field "category_id" Booking.category
    |>.field "ticket_id" Booking.seat
    |>.field "seat_label" Booking.seatLabel
    |>.field "user_id" Booking.user
    |>.field "status" Booking.status
    |>.field "hold_expires_at" Booking.holdExpiresAt
    |>.field "created_at" Booking.createdAt
    |>.field "updated_at" Booking.updatedAt

instance : JsonForm Booking := record.toForm

end Booking

/-- A user's wish to buy a seat, or a place of a pool when no seat is named. -/
structure BookingRequest where
  /-- Asking again with the same attempt gives the same booking. -/
  attempt : HoldId
  event : EventId
  category : CategoryId
  seatLabel : Option String
  user : UserId
  deriving DecidableEq

namespace BookingRequest

/-- The wish with its seat label trimmed; a blank label is none. -/
def normalized (r : BookingRequest) : BookingRequest :=
  { r with seatLabel := (r.seatLabel.map Text.trim).filter fun label => !label.isEmpty }

/-- The reservation that the wish needs. -/
def reservation (r : BookingRequest) : ReserveRequest where
  hold := r.attempt
  event := r.event
  category := r.category
  seatLabel := r.seatLabel

/-- The fields of a wish in JSON. -/
def record : RecordForm BookingRequest BookingRequest :=
  RecordForm.start BookingRequest.mk
    |>.field "attempt_id" BookingRequest.attempt
    |>.field "event_id" BookingRequest.event
    |>.field "category_id" BookingRequest.category
    |>.field "seat_label" BookingRequest.seatLabel
    |>.field "user_id" BookingRequest.user

instance : JsonForm BookingRequest := record.toForm

end BookingRequest

end BoxOffice
