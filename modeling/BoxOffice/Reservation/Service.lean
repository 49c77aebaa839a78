import BoxOffice.Ledger.Interface
import BoxOffice.Reservation.Interface
import BoxOffice.Surroundings
import BoxOffice.Text.Blank

/-!
# The inventory service

Answers the calls of the front desk over a ledger. A request is checked against its category, then
one conditional change of the ledger is made; if that has no effect, the seat or hold is read again
to tell the caller why.
-/

namespace BoxOffice

/-- What the inventory service works with. -/
abbrev InventoryWorld : Interface :=
  Ledger.sum Surroundings

namespace Reservations

/-- Ends a service with the error of a cause. -/
def fail {I : Interface} {α : Type} (c : Cause) : Service I α :=
  throw c.error

/-- The category of a request, which has to belong to the event that the request names. -/
def requestedCategory (request : ReserveRequest) : Service InventoryWorld Category := do
  match ← Ledger.category request.category with
  | none => fail (.categoryMissing request.category)
  | some category =>
    if category.event = request.event then return category
    else fail (.foreignEvent category.id request.event)

/-- The trimmed seat label of a request, if there is more to it than blanks. -/
def namedSeat (request : ReserveRequest) : Option String :=
  (request.seatLabel.map Text.trim).filter fun label => !label.isEmpty

/-- The token of a seat that a request has. -/
def seatToken (request : ReserveRequest) (category : Category) (seat : Seat)
    (expiresAt : Instant) : Token where
  hold := request.hold
  event := category.event
  category := category.id
  unit := .seat seat.id seat.label
  expiresAt

/-- Tells a request that did not get its seat what it has, or why it has nothing. -/
def explainSeat (request : ReserveRequest) (category : Category) (label : String)
    (now expiresAt : Instant) : Service InventoryWorld Token := do
  match ← Ledger.seat category.id label with
  | none => fail (.seatMissing category.id label)
  | some seat =>
    if seat.isHeldBy request.hold now then
      Surroundings.count (.reservation .seat .replayed)
      Surroundings.note .seatAlreadyHeld
      return seatToken request category seat (seat.reservedUntil.getD expiresAt)
    else
      Surroundings.count (.reservation .seat .conflict)
      Surroundings.note .seatNotAvailable
      fail (if seat.status = .sold then .seatSold label else .seatReserved label)

/-- Reserves the seat that a request names. -/
def reserveSeat (hold : Span) (request : ReserveRequest) (category : Category) :
    Service InventoryWorld Token := do
  match namedSeat request with
  | none => fail (.seatLabelRequired category.id)
  | some label =>
    let now ← Surroundings.now
    let expiresAt ← Surroundings.later now hold
    let claim : SeatClaim :=
      { category := category.id, label, hold := request.hold, now, expiresAt }
    match ← Ledger.reserveSeat claim with
    | some seat =>
      Surroundings.count (.reservation .seat .reserved)
      Surroundings.note .seatReserved
      return seatToken request category seat expiresAt
    | none => explainSeat request category label now expiresAt

/-- The token of a place that a request has. -/
def stockToken (request : ReserveRequest) (category : Category) (hold : StockHold) : Token where
  hold := request.hold
  event := category.event
  category := category.id
  unit := .stock
  expiresAt := hold.expiresAt

/-- Reserves a place of the pool for a request that names no seat. -/
def reserveStock (hold : Span) (request : ReserveRequest) (category : Category) :
    Service InventoryWorld Token := do
  if (namedSeat request).isSome then fail (.seatLabelRefused category.id)
  let now ← Surroundings.now
  let expiresAt ← Surroundings.later now hold
  match ← Ledger.takeStock category.id request.hold now expiresAt with
  | .taken hold =>
    Surroundings.count (.reservation .stock .reserved)
    Surroundings.note .stockReserved
    return stockToken request category hold
  | .existing hold =>
    if hold.state = .held then
      Surroundings.count (.reservation .stock .replayed)
      Surroundings.note .stockAlreadyHeld
      return stockToken request category hold
    else
      Surroundings.count (.reservation .stock .conflict)
      fail (.holdSpent hold.hold hold.state)
  | .soldOut =>
    Surroundings.count (.reservation .stock .conflict)
    Surroundings.note .stockSoldOut
    fail (.soldOut category.id)

/-- Holds a unit for a request. -/
def reserve (hold : Span) (request : ReserveRequest) : Service InventoryWorld Token := do
  let category ← requestedCategory request
  match category.layout with
  | .seated => reserveSeat hold request category
  | .standing => reserveStock hold request category

/-- Gives back what a token holds. -/
def release (token : Token) : Service InventoryWorld Unit := do
  let released ← match token.unit with
    | .seat _ label => Ledger.releaseSeat token.category label token.hold
    | .stock => Ledger.returnStock token.category token.hold
  if released then
    Surroundings.count (.release token.unit.kind)
    Surroundings.note .holdReleased
  else Surroundings.note .releaseHadNoEffect

/-- Sells the seat that a token holds. -/
def confirmSeat (token : Token) (label : String) : Service InventoryWorld Unit := do
  let now ← Surroundings.now
  if ← Ledger.sellSeat token.category label token.hold now then
    Surroundings.count (.confirmation .seat true)
    Surroundings.note .seatSold
  else
    Surroundings.count (.confirmation .seat false)
    Surroundings.note .seatSaleRejected
    fail (.seatNotHeld label token.hold)

/-- Sells the place that a token holds. A place that is sold already stays so. -/
def confirmStock (token : Token) : Service InventoryWorld Unit := do
  let now ← Surroundings.now
  if ← Ledger.settleStock token.category token.hold now then
    Surroundings.count (.confirmation .stock true)
    Surroundings.note .stockSold
  else
    match ← Ledger.stockHold token.category token.hold with
    | some hold =>
      if hold.state = .confirmed then return ()
      Surroundings.count (.confirmation .stock false)
      Surroundings.note .stockSaleRejected
      fail (.stockNotHeld hold.hold hold.state)
    | none =>
      Surroundings.count (.confirmation .stock false)
      fail (.stockUnknown token.hold token.category)

/-- Sells what a token holds. -/
def confirm (token : Token) : Service InventoryWorld Unit :=
  match token.unit with
  | .seat _ label => confirmSeat token label
  | .stock => confirmStock token

/-- A snapshot of a category. -/
def availability (category : CategoryId) : Service InventoryWorld Availability := do
  let now ← Surroundings.now
  match ← Ledger.availability category now with
  | some snapshot => return snapshot
  | none => fail (.categoryMissing category)

/-- Answers a call, with holds that last for a given span. -/
def answer (hold : Span) : (c : Call) → Program InventoryWorld (Result c.Answer)
  | .reserve request => (reserve hold request).run
  | .release token => (release token).run
  | .confirm token => (confirm token).run
  | .availability category => (availability category).run

end Reservations

end BoxOffice
