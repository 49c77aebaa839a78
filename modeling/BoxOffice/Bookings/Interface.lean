import BoxOffice.Booking
import BoxOffice.Program.Service

/-!
# The booking store

The store keeps one booking for each attempt and changes a booking's status only from the status
that the caller expects.
-/

namespace BoxOffice

namespace BookingStore

/-- The calls to the store. -/
inductive Call
  /-- Store a pending booking. -/
  | create (draft : BookingDraft)
  | get (booking : BookingId)
  | findByAttempt (attempt : HoldId)
  /-- Change a booking's status from one to another. -/
  | transition (booking : BookingId) (expected target : BookingStatus)
  deriving DecidableEq

/-- What a call is answered with when it succeeds. -/
def Call.Answer : Call → Type
  | create _ => Booking
  | get _ => Option Booking
  | findByAttempt _ => Option Booking
  | transition _ _ _ => Booking

end BookingStore

/-- The booking store. -/
def BookingStore : Interface where
  Call := BookingStore.Call
  Reply c := Result c.Answer

namespace BookingStore

variable {I : Interface} [Offers I BookingStore]

/-- Makes a call to the store. -/
def ask (c : Call) : Service I c.Answer :=
  ExceptT.mk (Offers.call (J := BookingStore) c)

/-- Stores a pending booking. -/
def create (draft : BookingDraft) : Service I Booking :=
  ask (.create draft)

/-- Looks up a booking. -/
def get (booking : BookingId) : Service I (Option Booking) :=
  ask (.get booking)

/-- Looks up the booking of an attempt. -/
def findByAttempt (attempt : HoldId) : Service I (Option Booking) :=
  ask (.findByAttempt attempt)

/-- Changes a booking's status from the expected one. -/
def transition (booking : BookingId) (expected target : BookingStatus) : Service I Booking :=
  ask (.transition booking expected target)

end BookingStore

end BoxOffice
