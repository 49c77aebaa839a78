import BoxOffice.Json.Form

/-!
# Availability

Snapshots of what a category has left, and reports of what a sweep gave back.
-/

namespace BoxOffice

/-- A snapshot of a category. What lapsed holds keep counts as available. -/
structure Availability where
  total : UInt32
  available : UInt32
  reserved : UInt32
  sold : UInt32
  deriving DecidableEq, Repr

namespace Availability

/-- The fields of a snapshot in JSON. -/
def record : RecordForm Availability Availability :=
  RecordForm.start Availability.mk
    |>.field "total" Availability.total
    |>.field "available" Availability.available
    |>.field "reserved" Availability.reserved
    |>.field "sold" Availability.sold

instance : JsonForm Availability := record.toForm

end Availability

/-- How many lapsed holds a sweep gave back. -/
structure SweepReport where
  seats : UInt64
  stock : UInt64
  deriving DecidableEq, Repr

namespace SweepReport

/-- A sweep that found nothing. -/
def empty : SweepReport := ⟨0, 0⟩

/-- The number of places given back. -/
def total (r : SweepReport) : UInt64 :=
  r.seats + r.stock

/-- The sweep gave nothing back. -/
def isEmpty (r : SweepReport) : Bool :=
  r.total == 0

instance : Add SweepReport := ⟨fun a b => ⟨a.seats + b.seats, a.stock + b.stock⟩⟩

/-- The fields of a report in JSON. -/
def record : RecordForm SweepReport SweepReport :=
  RecordForm.start SweepReport.mk
    |>.field "seats" SweepReport.seats
    |>.field "stock" SweepReport.stock

instance : JsonForm SweepReport := record.toForm

end SweepReport

end BoxOffice
