import BoxOffice.Identifier
import BoxOffice.Label
import BoxOffice.Time.Timestamp

/-!
# Stock holds

A hold on one place of a pool. It is live up to and including its expiry.
-/

namespace BoxOffice

/-- The stages of a stock hold. -/
inductive HoldState
  /-- The place is out of the pool and waits for its sale. -/
  | held
  /-- The place is sold. -/
  | confirmed
  /-- The holder gave the place back. -/
  | released
  /-- The hold lapsed and the place went back to the pool. -/
  | expired
  deriving DecidableEq, Repr

instance : Labelled HoldState where
  typeName := "StockHoldState"
  values := [.held, .confirmed, .released, .expired]
  label
    | .held => "HELD"
    | .confirmed => "CONFIRMED"
    | .released => "RELEASED"
    | .expired => "EXPIRED"

instance : LawfulLabelled HoldState := ⟨fun a => by cases a <;> rfl⟩

instance : JsonForm HoldState := Labelled.toForm

/-- A hold on one place of a category's pool. -/
structure StockHold where
  hold : HoldId
  category : CategoryId
  state : HoldState
  expiresAt : Instant
  deriving DecidableEq

namespace StockHold

/-- The hold waits for its sale and has not lapsed. -/
def isLive (h : StockHold) (now : Instant) : Bool :=
  h.state == .held && now ≤ h.expiresAt

/-- The hold waits for its sale and has lapsed. -/
def isLapsed (h : StockHold) (now : Instant) : Bool :=
  h.state == .held && h.expiresAt < now

/-- The fields of a stock hold in JSON. -/
def record : RecordForm StockHold StockHold :=
  RecordForm.start StockHold.mk
    |>.field "hold_id" StockHold.hold
    |>.field "category_id" StockHold.category
    |>.field "state" StockHold.state
    |>.field "expires_at" StockHold.expiresAt

instance : JsonForm StockHold := record.toForm

end StockHold

/-- What became of asking a pool for a place. -/
inductive StockOutcome
  /-- A place was taken, or a lapsed hold of the same identifier was renewed. -/
  | taken (hold : StockHold)
  /-- The identifier already has a hold that is live or sold; nothing changed. -/
  | existing (hold : StockHold)
  /-- The pool is empty. -/
  | soldOut
  deriving DecidableEq

end BoxOffice
