import BoxOffice.Text.Decimal
import BoxOffice.Uuid

/-!
# Identifiers

Events, categories, seats and users are numbered by the box office's own registers. Holds and
bookings carry UUIDs. A booking attempt and the hold it takes share one identifier, so that a
repeated attempt finds the hold it already has.
-/

namespace BoxOffice

/-- An event. -/
structure EventId where
  value : Int32
  deriving DecidableEq, Repr

/-- A category of tickets, unique across events. -/
structure CategoryId where
  value : Int32
  deriving DecidableEq, Repr

/-- A numbered seat. -/
structure SeatId where
  value : Int32
  deriving DecidableEq, Repr

/-- A purchaser. -/
structure UserId where
  value : Int32
  deriving DecidableEq, Repr

/-- A hold, and the booking attempt that asked for it. -/
structure HoldId where
  value : Uuid
  deriving DecidableEq

/-- A booking. -/
structure BookingId where
  value : Uuid
  deriving DecidableEq

instance : ToString EventId := ⟨fun id => Text.integer id.value.toInt⟩

instance : ToString CategoryId := ⟨fun id => Text.integer id.value.toInt⟩

instance : ToString SeatId := ⟨fun id => Text.integer id.value.toInt⟩

instance : ToString UserId := ⟨fun id => Text.integer id.value.toInt⟩

instance : ToString HoldId := ⟨fun id => id.value.render⟩

instance : ToString BookingId := ⟨fun id => id.value.render⟩

instance : JsonForm EventId := ⟨fun id => encode id.value, fun j => (decode j).map EventId.mk, none⟩

instance : JsonForm CategoryId :=
  ⟨fun id => encode id.value, fun j => (decode j).map CategoryId.mk, none⟩

instance : JsonForm SeatId := ⟨fun id => encode id.value, fun j => (decode j).map SeatId.mk, none⟩

instance : JsonForm UserId := ⟨fun id => encode id.value, fun j => (decode j).map UserId.mk, none⟩

instance : JsonForm HoldId := ⟨fun id => encode id.value, fun j => (decode j).map HoldId.mk, none⟩

instance : JsonForm BookingId :=
  ⟨fun id => encode id.value, fun j => (decode j).map BookingId.mk, none⟩

end BoxOffice
