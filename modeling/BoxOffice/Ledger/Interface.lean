import BoxOffice.Availability
import BoxOffice.Category
import BoxOffice.Cause
import BoxOffice.Program.Service

/-!
# The inventory ledger

The ledger keeps seats, pools and stock holds. Each call is one conditional change of one seat or of
one pool; a change whose condition does not hold says so and does nothing, and the caller decides
what that means.
-/

namespace BoxOffice

/-- A wish to reserve a seat for a hold. -/
structure SeatClaim where
  category : CategoryId
  label : String
  hold : HoldId
  /-- The time at which the claim is made. -/
  now : Instant
  /-- The last instant of the hold. -/
  expiresAt : Instant
  deriving DecidableEq

namespace Ledger

/-- The calls to the ledger. -/
inductive Call
  | category (id : CategoryId)
  | seat (category : CategoryId) (label : String)
  /-- A seat that is claimable becomes reserved by the claim's hold. Answers with the seat as it is
  then, or nothing if there is no such seat or it is not claimable. -/
  | reserveSeat (claim : SeatClaim)
  /-- A seat reserved by the hold becomes available. Answers whether it did. -/
  | releaseSeat (category : CategoryId) (label : String) (hold : HoldId)
  /-- A seat reserved by the hold, not lapsed, becomes sold. Answers whether it did. -/
  | sellSeat (category : CategoryId) (label : String) (hold : HoldId) (now : Instant)
  /-- A place of a pool is taken for the hold. -/
  | takeStock (category : CategoryId) (hold : HoldId) (now expiresAt : Instant)
  | stockHold (category : CategoryId) (hold : HoldId)
  /-- A held place goes back to its pool. Answers whether it did. -/
  | returnStock (category : CategoryId) (hold : HoldId)
  /-- A held place, not lapsed, becomes sold. Answers whether it did. -/
  | settleStock (category : CategoryId) (hold : HoldId) (now : Instant)
  /-- Every lapsed hold is given back. -/
  | reclaim (now : Instant)
  /-- A snapshot of a category, in which lapsed holds count as available. -/
  | availability (category : CategoryId) (now : Instant)
  deriving DecidableEq

/-- What a call is answered with when it succeeds. -/
def Call.Answer : Call → Type
  | category _ => Option Category
  | seat _ _ => Option Seat
  | reserveSeat _ => Option Seat
  | releaseSeat _ _ _ => Bool
  | sellSeat _ _ _ _ => Bool
  | takeStock _ _ _ _ => StockOutcome
  | stockHold _ _ => Option StockHold
  | returnStock _ _ => Bool
  | settleStock _ _ _ => Bool
  | reclaim _ => SweepReport
  | availability _ _ => Option Availability

end Ledger

/-- The inventory ledger. -/
def Ledger : Interface where
  Call := Ledger.Call
  Reply c := Result c.Answer

namespace Ledger

variable {I : Interface} [Offers I Ledger]

/-- Makes a call to the ledger. -/
def ask (c : Call) : Service I c.Answer :=
  ExceptT.mk (Offers.call (J := Ledger) c)

/-- Looks up a category. -/
def category (id : CategoryId) : Service I (Option Category) :=
  ask (.category id)

/-- Looks up a seat. -/
def seat (category : CategoryId) (label : String) : Service I (Option Seat) :=
  ask (.seat category label)

/-- Reserves a seat if it is claimable. -/
def reserveSeat (claim : SeatClaim) : Service I (Option Seat) :=
  ask (.reserveSeat claim)

/-- Gives back a seat that the hold has reserved. -/
def releaseSeat (category : CategoryId) (label : String) (hold : HoldId) : Service I Bool :=
  ask (.releaseSeat category label hold)

/-- Sells a seat to the hold that has it. -/
def sellSeat (category : CategoryId) (label : String) (hold : HoldId) (now : Instant) :
    Service I Bool :=
  ask (.sellSeat category label hold now)

/-- Takes a place of a pool. -/
def takeStock (category : CategoryId) (hold : HoldId) (now expiresAt : Instant) :
    Service I StockOutcome :=
  ask (.takeStock category hold now expiresAt)

/-- Looks up a stock hold. -/
def stockHold (category : CategoryId) (hold : HoldId) : Service I (Option StockHold) :=
  ask (.stockHold category hold)

/-- Gives back a held place. -/
def returnStock (category : CategoryId) (hold : HoldId) : Service I Bool :=
  ask (.returnStock category hold)

/-- Sells a held place. -/
def settleStock (category : CategoryId) (hold : HoldId) (now : Instant) : Service I Bool :=
  ask (.settleStock category hold now)

/-- Gives back every lapsed hold. -/
def reclaim (now : Instant) : Service I SweepReport :=
  ask (.reclaim now)

/-- A snapshot of a category. -/
def availability (category : CategoryId) (now : Instant) : Service I (Option Availability) :=
  ask (.availability category now)

end Ledger

end BoxOffice
