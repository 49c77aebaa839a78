import BoxOffice.Ledger.Interface
import BoxOffice.Reservation.Service
import BoxOffice.Surroundings

/-!
# The reclaimer

Lapsed holds are given back by a sweep over the whole ledger, repeated at an interval until the
service shuts down. A sweep that fails is written down and the next one comes at its time.
-/

namespace BoxOffice.Reclaimer

/-- The time between two sweeps when nothing else is said. -/
def defaultInterval : Delay := .ofSeconds 60

/-- Sweeps once. -/
def sweep : Service InventoryWorld SweepReport := do
  let now ← Surroundings.now
  match ← (Ledger.reclaim now).outcome with
  | .ok report =>
    for m in Measurement.ofSweep report .zero now.second do
      Surroundings.measure m
    Surroundings.note (if report.isEmpty then .sweepFoundNothing else .holdsReclaimed)
    return report
  | .error e =>
    Surroundings.count .reclaimError
    throw e

/-- Sweeps once and goes on whatever comes of it. -/
def tick : Program InventoryWorld Unit := do
  match ← sweep.run with
  | .ok _ => return ()
  | .error _ => Surroundings.note .sweepFailed

/-- Sweeps at time `next` and after every interval, as long as the time is before `stop`, and tells
when the sweep after those is due. Times are counted from the start of the loop, whose first sweep is
due at once. Without time between its sweeps there is no loop. -/
def sweepUntil (interval next stop : Delay) : Program InventoryWorld Delay :=
  if 0 < interval.nanos ∧ next < stop then do
    tick
    sweepUntil interval (next + interval) stop
  else return next
termination_by stop.nanos - next.nanos
decreasing_by
  rename_i h
  have later : next.nanos < stop.nanos := h.2
  change stop.nanos - (next.nanos + interval.nanos) < stop.nanos - next.nanos
  omega

end BoxOffice.Reclaimer
