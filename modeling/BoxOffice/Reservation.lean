import BoxOffice.Identifier
import BoxOffice.Time.Timestamp

/-!
# Reservations

A token is the receipt of a reservation: it names the hold and what it holds, and with it the hold
is sold or given back.
-/

namespace BoxOffice

/-- What a reservation holds. -/
inductive HeldUnit
  /-- A numbered seat. -/
  | seat (id : SeatId) (label : String)
  /-- A place of a pool. -/
  | stock
  deriving DecidableEq

/-- The kinds of units, as logs and metrics call them. -/
inductive UnitKind
  | seat
  | stock
  deriving DecidableEq, Repr

/-- The name of a kind of unit. -/
def UnitKind.name : UnitKind → String
  | .seat => "seat"
  | .stock => "stock"

namespace HeldUnit

/-- The kind of a unit. -/
def kind : HeldUnit → UnitKind
  | .seat _ _ => .seat
  | .stock => .stock

/-- The fields of a held seat. -/
structure SeatFields where
  ticket : SeatId
  label : String

/-- The fields of a held seat in JSON. -/
def SeatFields.record : RecordForm SeatFields SeatFields :=
  RecordForm.start SeatFields.mk
    |>.field "ticket_id" SeatFields.ticket
    |>.field "seat_label" SeatFields.label

instance : JsonForm SeatFields := SeatFields.record.toForm

/-- The unit whose kind and remaining members are given. -/
def ofTagged? (tag : Json) (rest : Json) : Option HeldUnit :=
  match tag, rest with
  | .text "seat", rest => (decode rest).map fun (f : SeatFields) => .seat f.ticket f.label
  | .text "stock", .object _ => some .stock
  | .text "stock", .list [] => some .stock
  | _, _ => none

/-- A unit is written as an object whose member `type` gives the kind. When it is read the kind may
stand anywhere, or begin a list, and every member has to be a value that can be kept. -/
instance : JsonForm HeldUnit where
  encode
    | .seat id label =>
      .object [("type", .text "seat"), ("ticket_id", encode id), ("seat_label", encode label)]
    | .stock => .object [("type", .text "stock")]
  decode j :=
    if !j.isSound then none
    else match j with
      | .object members =>
        match members.filter (·.1 == "type") with
        | [(_, tag)] => ofTagged? tag (.object (members.filter (·.1 != "type")))
        | _ => none
      | .list (tag :: rest) => ofTagged? tag (.list rest)
      | _ => none

end HeldUnit

/-- The receipt of a reservation. -/
structure Token where
  hold : HoldId
  event : EventId
  category : CategoryId
  unit : HeldUnit
  /-- The last instant of the hold. -/
  expiresAt : Instant
  deriving DecidableEq

namespace Token

/-- The label of the held seat. -/
def seatLabel (t : Token) : Option String :=
  match t.unit with
  | .seat _ label => some label
  | .stock => none

/-- The held seat. -/
def seatId (t : Token) : Option SeatId :=
  match t.unit with
  | .seat id _ => some id
  | .stock => none

/-- The fields of a token in JSON. -/
def record : RecordForm Token Token :=
  RecordForm.start Token.mk
    |>.field "hold_id" Token.hold
    |>.field "event_id" Token.event
    |>.field "category_id" Token.category
    |>.field "unit" Token.unit
    |>.field "expires_at" Token.expiresAt

instance : JsonForm Token := record.toForm

end Token

/-- A wish for a seat, or for a place of a pool when no seat is named. -/
structure ReserveRequest where
  /-- Asking again with the same hold gives the same reservation. -/
  hold : HoldId
  /-- The event that the category is thought to belong to. -/
  event : EventId
  category : CategoryId
  seatLabel : Option String
  deriving DecidableEq

namespace ReserveRequest

/-- A wish for a numbered seat. -/
def seated (hold : HoldId) (event : EventId) (category : CategoryId) (label : String) :
    ReserveRequest :=
  { hold, event, category, seatLabel := some label }

/-- A wish for a place of a pool. -/
def standing (hold : HoldId) (event : EventId) (category : CategoryId) : ReserveRequest :=
  { hold, event, category, seatLabel := none }

/-- The fields of a wish in JSON. -/
def record : RecordForm ReserveRequest ReserveRequest :=
  RecordForm.start ReserveRequest.mk
    |>.field "hold_id" ReserveRequest.hold
    |>.field "event_id" ReserveRequest.event
    |>.field "category_id" ReserveRequest.category
    |>.field "seat_label" ReserveRequest.seatLabel

instance : JsonForm ReserveRequest := record.toForm

end ReserveRequest

end BoxOffice
