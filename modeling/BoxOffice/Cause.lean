import BoxOffice.Booking
import BoxOffice.Category
import BoxOffice.Error
import BoxOffice.Seat
import BoxOffice.Stock

/-!
# Causes of errors

Everything that the box office itself may refuse or find broken, each with its kind and its wording.
The stores behind it and the tests in front of it may answer with errors of their own.
-/

namespace BoxOffice

/-- A reason for which the box office answers with an error. -/
inductive Cause
  /-- A request names a category that is not there. -/
  | categoryMissing (category : CategoryId)
  /-- A pool is asked for that is not there. -/
  | poolMissing (category : CategoryId)
  | foreignEvent (category : CategoryId) (event : EventId)
  | seatLabelRequired (category : CategoryId)
  | seatLabelRefused (category : CategoryId)
  | seatMissing (category : CategoryId) (label : String)
  | seatSold (label : String)
  | seatReserved (label : String)
  | soldOut (category : CategoryId)
  | holdSpent (hold : HoldId) (state : HoldState)
  | seatNotHeld (label : String) (hold : HoldId)
  | stockNotHeld (hold : HoldId) (state : HoldState)
  | stockUnknown (hold : HoldId) (category : CategoryId)
  | notSeatedFixed (category : CategoryId)
  | notStandingFlexible (category : CategoryId)
  | mismatchedKinds (category : CategoryId) (layout : Layout) (tracking : Tracking)
  | blankSeatLabel
  | repeatedSeatLabel (category : CategoryId) (label : String)
  | tooManySeats
  | seatLabelsRefused (category : CategoryId)
  | overfull (category : CategoryId) (available total : UInt32)
  | categoryExists (category : CategoryId)
  | capacityOutOfRange
  | availableOutOfRange
  | priceOutOfRange
  | invalidUser (user : UserId)
  | attemptExists (attempt : HoldId)
  | bookingMissing (booking : BookingId)
  | bookingCancelled (booking : BookingId)
  | bookingConfirmed (booking : BookingId)
  | bookingElsewhere (booking : BookingId) (status expected : BookingStatus)
  /-- A saga was told of an outcome that it did not ask for. -/
  | outOfOrder (attempt : HoldId) (event state : String)
  /-- A label that belongs to no value of its list, in a stored row. -/
  | unknownLabel (typeName label : String)
  | negativePrice (category : Int32)
  | countOutOfRange (what : String) (count : Int)
  | holdVanished (hold : HoldId)
  | inventoryUnreachable
  | bookingsUnavailable

namespace Cause

/-- The kind of error that a reason makes. -/
def kind : Cause → ErrorKind
  | categoryMissing _ | poolMissing _ | seatMissing _ _ | bookingMissing _ => .notFound
  | foreignEvent _ _ | seatLabelRequired _ | seatLabelRefused _ | notSeatedFixed _
  | notStandingFlexible _ | mismatchedKinds _ _ _ | blankSeatLabel | repeatedSeatLabel _ _
  | tooManySeats | seatLabelsRefused _ | overfull _ _ _ | categoryExists _ | capacityOutOfRange
  | availableOutOfRange | priceOutOfRange | invalidUser _ | attemptExists _ => .invalidArgument
  | seatSold _ | seatReserved _ | soldOut _ | holdSpent _ _ | seatNotHeld _ _ | stockNotHeld _ _
  | stockUnknown _ _ | bookingCancelled _ | bookingConfirmed _ | bookingElsewhere _ _ _ => .conflict
  | outOfOrder _ _ _ | unknownLabel _ _ | negativePrice _ | countOutOfRange _ _ | holdVanished _
  | inventoryUnreachable | bookingsUnavailable => .internal

/-- The wording of a reason. -/
def message : Cause → String
  | categoryMissing category => s!"category {category} not found"
  | poolMissing category => s!"category {category}"
  | foreignEvent category event => s!"category {category} does not belong to event {event}"
  | seatLabelRequired category => s!"seat label is required for seated category {category}"
  | seatLabelRefused category => s!"standing category {category} does not take a seat label"
  | seatMissing category label => s!"seat {label} not found in category {category}"
  | seatSold label => s!"seat {label} is sold"
  | seatReserved label => s!"seat {label} is reserved"
  | soldOut category => s!"category {category} is sold out"
  | holdSpent hold state => s!"hold {hold} is already {Labelled.label state}"
  | seatNotHeld label hold => s!"seat {label} is not reserved by hold {hold}"
  | stockNotHeld hold state =>
    s!"stock hold {hold} is {Labelled.label state}" ++ if state = .held then " but lapsed" else ""
  | stockUnknown hold category => s!"no stock hold {hold} in category {category}"
  | notSeatedFixed category => s!"category {category} must be SEATED/FIXED"
  | notStandingFlexible category => s!"category {category} must be STANDING/FLEXIBLE"
  | mismatchedKinds category layout tracking =>
    s!"category {category} cannot be {Labelled.label layout}/{Labelled.label tracking}"
  | blankSeatLabel => "seat label must not be blank"
  | repeatedSeatLabel category label => s!"duplicate seat label {label} in category {category}"
  | tooManySeats => "too many seats"
  | seatLabelsRefused category => s!"standing category {category} takes no seat labels"
  | overfull category available total =>
    s!"category {category} available {available.toNat} exceeds capacity {total.toNat}"
  | categoryExists category => s!"category {category} already exists"
  | capacityOutOfRange => "capacity out of range"
  | availableOutOfRange => "available out of range"
  | priceOutOfRange => "price out of range"
  | invalidUser user => s!"invalid user id {user}"
  | attemptExists attempt => s!"booking for attempt {attempt} already exists"
  | bookingMissing booking => s!"booking {booking} not found"
  | bookingCancelled booking => s!"booking {booking} is cancelled"
  | bookingConfirmed booking => s!"booking {booking} is already confirmed"
  | bookingElsewhere booking status expected =>
    s!"booking {booking} is {Labelled.label status}, expected {Labelled.label expected}"
  | outOfOrder attempt event state => s!"booking saga {attempt} received {event} while {state}"
  | unknownLabel typeName label => s!"unknown {typeName} label: {label}"
  | negativePrice category => s!"category {Text.integer category.toInt} has negative price"
  | countOutOfRange what count => s!"{what} out of range: {Text.integer count}"
  | holdVanished hold => s!"stock hold {hold} vanished during take"
  | inventoryUnreachable => "inventory service unreachable"
  | bookingsUnavailable => "booking database unavailable"

/-- The error that a reason makes. -/
def error (c : Cause) : Error :=
  { kind := c.kind, message := c.message }

end Cause

/-- The answer of an operation that is refused. -/
def refuse {α : Type} (c : Cause) : Result α :=
  .error c.error

/-- The value of a stored label. Labels are only ever stored for values, so another one is an
error of the store. -/
def Labelled.read {α : Type} [Labelled α] (text : String) : Result α :=
  match Labelled.ofLabel? text with
  | some a => .ok a
  | none => refuse (.unknownLabel (Labelled.typeName (α := α)) text)

end BoxOffice
