import BoxOffice.Identifier
import BoxOffice.Label
import BoxOffice.Time.Timestamp

/-!
# Seats

A numbered seat is available, reserved by a hold until an instant, or sold. The hold keeps the seat
up to and including that instant; only afterwards may another hold claim it.
-/

namespace BoxOffice

/-- The stages of a seat. -/
inductive SeatStatus
  | available
  | reserved
  | sold
  deriving DecidableEq, Repr

instance : Labelled SeatStatus where
  typeName := "SeatStatus"
  values := [.available, .reserved, .sold]
  label
    | .available => "AVAILABLE"
    | .reserved => "RESERVED"
    | .sold => "SOLD"

instance : LawfulLabelled SeatStatus := ⟨fun a => by cases a <;> rfl⟩

instance : JsonForm SeatStatus := Labelled.toForm

/-- A numbered seat. -/
structure Seat where
  id : SeatId
  category : CategoryId
  /-- The seat's name, unique in its category. -/
  label : String
  status : SeatStatus
  /-- The last instant of the hold on a reserved seat. -/
  reservedUntil : Option Instant
  /-- The hold that a reserved or sold seat belongs to. -/
  hold : Option HoldId
  deriving DecidableEq

namespace Seat

/-- A seat that nobody holds. -/
def fresh (id : SeatId) (category : CategoryId) (label : String) : Seat :=
  { id, category, label, status := .available, reservedUntil := none, hold := none }

/-- A hold may claim the seat now: it is available, or reserved until an instant before now. -/
def isClaimable (s : Seat) (now : Instant) : Bool :=
  match s.status with
  | .available => true
  | .reserved => s.reservedUntil.all fun last => last < now
  | .sold => false

/-- The seat is reserved by this hold, and the hold has not lapsed. -/
def isHeldBy (s : Seat) (hold : HoldId) (now : Instant) : Bool :=
  s.status == .reserved && s.hold == some hold && s.reservedUntil.any fun last => now ≤ last

/-- The seat is reserved by a hold that has lapsed. -/
def isLapsed (s : Seat) (now : Instant) : Bool :=
  s.status == .reserved && s.reservedUntil.any fun last => last < now

/-- The seat reserved by a hold until an instant. -/
def reserve (s : Seat) (hold : HoldId) (last : Instant) : Seat :=
  { s with status := .reserved, reservedUntil := some last, hold := some hold }

/-- The seat given back. -/
def free (s : Seat) : Seat :=
  { s with status := .available, reservedUntil := none, hold := none }

/-- The seat sold to the hold that has it. -/
def sell (s : Seat) : Seat :=
  { s with status := .sold, reservedUntil := none }

/-- The fields of a seat in JSON. -/
def record : RecordForm Seat Seat :=
  RecordForm.start Seat.mk
    |>.field "id" Seat.id
    |>.field "category_id" Seat.category
    |>.field "seat_label" Seat.label
    |>.field "status" Seat.status
    |>.field "reserved_until" Seat.reservedUntil
    |>.field "hold_id" Seat.hold

instance : JsonForm Seat := record.toForm

end Seat

end BoxOffice
