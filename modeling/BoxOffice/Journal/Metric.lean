import BoxOffice.Availability
import BoxOffice.Booking
import BoxOffice.Time.Delay

/-!
# Metrics

What the box office counts and times, with the names and explanations under which it is shown.
-/

namespace BoxOffice

/-- How a reservation request ended. -/
inductive ReservationOutcome
  | reserved
  | replayed
  | conflict
  deriving DecidableEq, Repr

/-- The name of a reservation's end. -/
def ReservationOutcome.name : ReservationOutcome → String
  | .reserved => "reserved"
  | .replayed => "replayed"
  | .conflict => "conflict"

/-- The kinds of database failures: a constraint was violated, or anything else. -/
inductive FailureClass
  | constraint
  | internal
  deriving DecidableEq, Repr

/-- The name of a kind of database failure. -/
def FailureClass.name : FailureClass → String
  | .constraint => "constraint"
  | .internal => "internal"

/-- The kinds of metrics. -/
inductive MetricKind
  | counter
  | gauge
  | histogram
  deriving DecidableEq, Repr

/-- The name of a kind of metric. -/
def MetricKind.name : MetricKind → String
  | .counter => "counter"
  | .gauge => "gauge"
  | .histogram => "histogram"

/-- A family of measurements that share a name. -/
inductive Metric
  | reservations
  | releases
  | confirmations
  | bookings
  | compensations
  | reclaimed
  | reclaimDuration
  | reclaimErrors
  | reclaimLastSuccess
  | databaseErrors
  | retryAttempts
  | retrySuccesses
  | retryExhausted
  deriving DecidableEq, Repr

namespace Metric

/-- Every metric of the box office. -/
def all : List Metric :=
  [reservations, releases, confirmations, bookings, compensations, reclaimed, reclaimDuration,
    reclaimErrors, reclaimLastSuccess, databaseErrors, retryAttempts, retrySuccesses,
    retryExhausted]

/-- The name under which a metric is shown. -/
def name : Metric → String
  | reservations => "ticket_tix_reservations_total"
  | releases => "ticket_tix_releases_total"
  | confirmations => "ticket_tix_confirmations_total"
  | bookings => "ticket_tix_bookings_total"
  | compensations => "ticket_tix_compensations_total"
  | reclaimed => "ticket_tix_reclaimed_total"
  | reclaimDuration => "ticket_tix_reclaim_duration_seconds"
  | reclaimErrors => "ticket_tix_reclaim_errors_total"
  | reclaimLastSuccess => "ticket_tix_reclaim_last_success_timestamp"
  | databaseErrors => "ticket_tix_db_errors_total"
  | retryAttempts => "ticket_tix_retry_attempts_total"
  | retrySuccesses => "ticket_tix_retry_successes_total"
  | retryExhausted => "ticket_tix_retry_exhausted_total"

/-- How the measurements of a metric add up. -/
def kind : Metric → MetricKind
  | reclaimDuration => .histogram
  | reclaimLastSuccess => .gauge
  | _ => .counter

/-- What a metric says. -/
def help : Metric → String
  | reservations => "Reservation attempts by unit kind and outcome (reserved, replayed, conflict)"
  | releases => "Holds returned to availability by release"
  | confirmations => "Confirmation attempts by unit kind and outcome (sold, conflict)"
  | bookings => "Bookings reaching each status"
  | compensations => "Compensating releases after a failed booking insert (ok, failed)"
  | reclaimed => "Lapsed holds returned by the reclaimer"
  | reclaimDuration => "Time taken by one reclaimer sweep"
  | reclaimErrors => "Reclaimer sweeps that failed"
  | reclaimLastSuccess => "Unix timestamp of the last successful sweep"
  | databaseErrors => "Database failures by class"
  | retryAttempts => "Total number of retry attempts"
  | retrySuccesses => "Total number of successful retries"
  | retryExhausted => "Total number of operations that exhausted their retries"

end Metric

/-- A number that only grows: a metric together with its labels. -/
inductive Counter
  | reservation (unit : UnitKind) (outcome : ReservationOutcome)
  | release (unit : UnitKind)
  | confirmation (unit : UnitKind) (sold : Bool)
  | booking (status : BookingStatus)
  | compensation (succeeded : Bool)
  | reclaimed (unit : UnitKind)
  | reclaimError
  | databaseError (failure : FailureClass)
  | retryAttempt
  | retrySuccess
  | retryExhausted
  deriving DecidableEq, Repr

namespace Counter

/-- The metric that a counter is part of. -/
def metric : Counter → Metric
  | reservation _ _ => .reservations
  | release _ => .releases
  | confirmation _ _ => .confirmations
  | booking _ => .bookings
  | compensation _ => .compensations
  | reclaimed _ => .reclaimed
  | reclaimError => .reclaimErrors
  | databaseError _ => .databaseErrors
  | retryAttempt => .retryAttempts
  | retrySuccess => .retrySuccesses
  | retryExhausted => .retryExhausted

/-- The labels of a counter, by name. -/
def labels : Counter → List (String × String)
  | reservation unit outcome => [("kind", unit.name), ("outcome", outcome.name)]
  | release unit => [("kind", unit.name)]
  | confirmation unit sold => [("kind", unit.name), ("outcome", if sold then "sold" else "conflict")]
  | booking status => [("status", Labelled.label status)]
  | compensation succeeded => [("outcome", if succeeded then "ok" else "failed")]
  | reclaimed unit => [("kind", unit.name)]
  | databaseError failure => [("class", failure.name)]
  | reclaimError | retryAttempt | retrySuccess | retryExhausted => []

end Counter

/-- One act of measuring. -/
inductive Measurement
  /-- A counter grew, perhaps by nothing. -/
  | count (counter : Counter) (amount : Nat)
  /-- A sweep took some time. -/
  | sweepDuration (duration : Delay)
  /-- A sweep succeeded at a number of seconds after 1970-01-01T00:00:00Z. -/
  | sweepSuccess (seconds : Int)
  deriving DecidableEq, Repr

/-- The measurements of a sweep that succeeded. -/
def Measurement.ofSweep (report : SweepReport) (duration : Delay) (finished : Int) :
    List Measurement :=
  [.count (.reclaimed .seat) report.seats.toNat, .count (.reclaimed .stock) report.stock.toNat,
    .sweepDuration duration, .sweepSuccess finished]

end BoxOffice
