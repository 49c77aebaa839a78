import BoxOffice.Availability
import BoxOffice.Program.Service
import BoxOffice.Reservation

/-!
# Reserving

The front desk's view of the inventory: ask for a reservation, give it back, make it a sale, and
look at what is left.
-/

namespace BoxOffice

namespace Reservations

/-- The calls to the inventory. -/
inductive Call
  /-- Hold a unit. The same hold asked for again is answered with what it has. -/
  | reserve (request : ReserveRequest)
  /-- Give back what a token holds. Giving back what is no longer held changes nothing. -/
  | release (token : Token)
  /-- Sell what a token holds. -/
  | confirm (token : Token)
  | availability (category : CategoryId)
  deriving DecidableEq

/-- What a call is answered with when it succeeds. -/
def Call.Answer : Call → Type
  | reserve _ => Token
  | release _ => Unit
  | confirm _ => Unit
  | availability _ => Availability

end Reservations

/-- The inventory as the front desk sees it. -/
def Reservations : Interface where
  Call := Reservations.Call
  Reply c := Result c.Answer

namespace Reservations

variable {I : Interface} [Offers I Reservations]

/-- Makes a call to the inventory. -/
def ask (c : Call) : Service I c.Answer :=
  ExceptT.mk (Offers.call (J := Reservations) c)

/-- Holds a unit. -/
def askReserve (request : ReserveRequest) : Service I Token :=
  ask (.reserve request)

/-- Gives back what a token holds. -/
def askRelease (token : Token) : Service I Unit :=
  ask (.release token)

/-- Sells what a token holds. -/
def askConfirm (token : Token) : Service I Unit :=
  ask (.confirm token)

end Reservations

end BoxOffice
