import BoxOffice.Booking
import BoxOffice.Category

/-!
# Reference categories

One event with a seated and a standing category, used throughout rehearsals.
-/

namespace BoxOffice.Rehearsal

/-- The event. -/
def eventId : EventId := ⟨1⟩

/-- The seated category's identifier. -/
def vipId : CategoryId := ⟨10⟩

/-- The standing category's identifier. -/
def gaId : CategoryId := ⟨20⟩

/-- The purchaser. -/
def userId : UserId := ⟨42⟩

/-- The first instant of 2025. -/
def t0 : Instant := .ofParts 1735689600 0

/-- The labels `prefix-1` to `prefix-count`. -/
def seatLabels (stem : String) (count : Nat) : List String :=
  (List.range count).map fun i => stem ++ "-" ++ Text.decimal (i + 1)

/-- The seated category; its capacity comes from its seats. -/
def vip : Category :=
  .seated vipId eventId "VIP" ⟨15000⟩ 0

/-- The standing category. -/
def ga (capacity : UInt32) : Category :=
  .standing gaId eventId "General Admission" ⟨4500⟩ capacity

/-- A wish for a seat of the seated category. -/
def vipRequest (hold : HoldId) (label : String) : ReserveRequest :=
  .seated hold eventId vipId label

/-- A wish for a place of the standing category. -/
def gaRequest (hold : HoldId) : ReserveRequest :=
  .standing hold eventId gaId

end BoxOffice.Rehearsal
