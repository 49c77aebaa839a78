import BoxOffice.Cause

/-!
# Rows

The rows of the four tables, and what they stand for. A row whose label belongs to no value, or
whose numbers cannot be counts, stands for nothing: reading it is an internal error. The first
fault in the order of the columns is reported, a negative price before all others.
-/

namespace BoxOffice

/-- A count read from the database. -/
def countOf (what : String) (n : Int) : Result UInt32 :=
  if 0 ≤ n ∧ n < UInt32.size then .ok (UInt32.ofNat n.toNat)
  else refuse (.countOutOfRange what n)

/-- A row of the table of categories. -/
structure CategoryRow where
  id : Int32
  event : Int32
  name : String
  kind : String
  bookingKind : String
  priceCents : Int64
  total : Int32
  available : Int32
  deriving DecidableEq, Repr

namespace CategoryRow

/-- The category that a row stands for. -/
def read (row : CategoryRow) : Result Category := do
  if row.priceCents.toInt < 0 then refuse (.negativePrice row.id)
  let layout ← Labelled.read row.kind
  let tracking ← Labelled.read row.bookingKind
  let total ← countOf "total" row.total.toInt
  let available ← countOf "available" row.available.toInt
  return {
    id := ⟨row.id⟩
    event := ⟨row.event⟩
    name := row.name
    layout
    tracking
    price := ⟨UInt64.ofNat row.priceCents.toInt.toNat⟩
    total
    available }

/-- The row that stands for a category whose numbers fit the columns. -/
def write (c : Category) : CategoryRow where
  id := c.id.value
  event := c.event.value
  name := c.name
  kind := Labelled.label c.layout
  bookingKind := Labelled.label c.tracking
  priceCents := Int64.ofInt c.price.cents.toNat
  total := Int32.ofInt c.total.toNat
  available := Int32.ofInt c.available.toNat

instance : JsonForm CategoryRow :=
  (RecordForm.start CategoryRow.mk
    |>.field "id" CategoryRow.id
    |>.field "event_id" CategoryRow.event
    |>.field "name" CategoryRow.name
    |>.field "kind" CategoryRow.kind
    |>.field "booking_kind" CategoryRow.bookingKind
    |>.field "price_cents" CategoryRow.priceCents
    |>.field "total" CategoryRow.total
    |>.field "available" CategoryRow.available).toForm

end CategoryRow

/-- A row of the table of seats. -/
structure SeatRow where
  id : Int32
  category : Int32
  label : String
  status : String
  reservedUntil : Option Instant
  hold : Option Uuid
  deriving DecidableEq

namespace SeatRow

/-- The seat that a row stands for. -/
def read (row : SeatRow) : Result Seat := do
  let status ← Labelled.read row.status
  return {
    id := ⟨row.id⟩
    category := ⟨row.category⟩
    label := row.label
    status
    reservedUntil := row.reservedUntil
    hold := row.hold.map HoldId.mk }

/-- The row that stands for a seat. -/
def write (s : Seat) : SeatRow where
  id := s.id.value
  category := s.category.value
  label := s.label
  status := Labelled.label s.status
  reservedUntil := s.reservedUntil
  hold := s.hold.map HoldId.value

instance : JsonForm SeatRow :=
  (RecordForm.start SeatRow.mk
    |>.field "id" SeatRow.id
    |>.field "category_id" SeatRow.category
    |>.field "seat_label" SeatRow.label
    |>.field "status" SeatRow.status
    |>.field "reserved_until" SeatRow.reservedUntil
    |>.field "hold_id" SeatRow.hold).toForm

end SeatRow

/-- A row of the table of stock holds. -/
structure HoldRow where
  hold : Uuid
  category : Int32
  state : String
  expiresAt : Instant
  deriving DecidableEq

namespace HoldRow

/-- The stock hold that a row stands for. -/
def read (row : HoldRow) : Result StockHold := do
  let state ← Labelled.read row.state
  return { hold := ⟨row.hold⟩, category := ⟨row.category⟩, state, expiresAt := row.expiresAt }

/-- The row that stands for a stock hold. -/
def write (h : StockHold) : HoldRow where
  hold := h.hold.value
  category := h.category.value
  state := Labelled.label h.state
  expiresAt := h.expiresAt

instance : JsonForm HoldRow :=
  (RecordForm.start HoldRow.mk
    |>.field "hold_id" HoldRow.hold
    |>.field "category_id" HoldRow.category
    |>.field "state" HoldRow.state
    |>.field "expires_at" HoldRow.expiresAt).toForm

end HoldRow

/-- A row of the table of bookings. -/
structure BookingRow where
  id : Uuid
  attempt : Uuid
  event : Int32
  category : Int32
  seat : Option Int32
  seatLabel : Option String
  user : Int32
  status : String
  holdExpiresAt : Instant
  createdAt : Instant
  updatedAt : Instant
  deriving DecidableEq

namespace BookingRow

/-- The booking that a row stands for. -/
def read (row : BookingRow) : Result Booking := do
  let status ← Labelled.read row.status
  return {
    id := ⟨row.id⟩
    attempt := ⟨row.attempt⟩
    event := ⟨row.event⟩
    category := ⟨row.category⟩
    seat := row.seat.map SeatId.mk
    seatLabel := row.seatLabel
    user := ⟨row.user⟩
    status
    holdExpiresAt := row.holdExpiresAt
    createdAt := row.createdAt
    updatedAt := row.updatedAt }

/-- The row that stands for a booking. -/
def write (b : Booking) : BookingRow where
  id := b.id.value
  attempt := b.attempt.value
  event := b.event.value
  category := b.category.value
  seat := b.seat.map SeatId.value
  seatLabel := b.seatLabel
  user := b.user.value
  status := Labelled.label b.status
  holdExpiresAt := b.holdExpiresAt
  createdAt := b.createdAt
  updatedAt := b.updatedAt

instance : JsonForm BookingRow :=
  (RecordForm.start BookingRow.mk
    |>.field "id" BookingRow.id
    |>.field "attempt_id" BookingRow.attempt
    |>.field "event_id" BookingRow.event
    |>.field "category_id" BookingRow.category
    |>.field "ticket_id" BookingRow.seat
    |>.field "seat_label" BookingRow.seatLabel
    |>.field "user_id" BookingRow.user
    |>.field "status" BookingRow.status
    |>.field "hold_expires_at" BookingRow.holdExpiresAt
    |>.field "created_at" BookingRow.createdAt
    |>.field "updated_at" BookingRow.updatedAt).toForm

end BookingRow

end BoxOffice
