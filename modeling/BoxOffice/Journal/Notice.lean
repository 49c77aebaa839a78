/-!
# Notices

What the box office writes to its log. A notice is one line of fixed wording with a level.
-/

namespace BoxOffice

/-- The levels of notices. -/
inductive Level
  | error
  | warn
  | info
  | debug
  deriving DecidableEq, Repr

/-- The name of a level. -/
def Level.name : Level → String
  | .error => "ERROR"
  | .warn => "WARN"
  | .info => "INFO"
  | .debug => "DEBUG"

/-- A line of the log. -/
inductive Notice
  | seatReserved
  | seatAlreadyHeld
  | seatNotAvailable
  | stockReserved
  | stockAlreadyHeld
  | stockSoldOut
  | seatSold
  | seatSaleRejected
  | stockSold
  | stockSaleRejected
  | holdReleased
  | releaseHadNoEffect
  | bookingReplayed
  | reservationRefused
  | attemptStoredElsewhere
  | insertFailed
  | compensationFailed
  | bookingCommitted
  | bookingRejected
  | bookingFailed
  | sagaCompleted
  | bookingConfirmed
  | holdLost
  | cancelAfterLossFailed
  | bookingCancelled
  | retrySucceeded
  | notRetryable
  | retriesExhausted
  | retrying
  | sweepFoundNothing
  | holdsReclaimed
  | sweepFailed
  | reclaimerStarted
  | reclaimerStopping
  | bookingInserted
  | databaseFailed
  | categoryProvisioned
  | concurrentTake
  | releaseFailureInjected
  | poolReady
  | serviceRunning
  | interruptReceived
  | terminationReceived
  | shutdownStarted
  | shutdownComplete
  | taskStopped
  | taskFailed
  | taskTimedOut
  | recorderTaken
  | metricsServed (address : String)
  | starting
  | configured
  deriving DecidableEq, Repr

namespace Notice

/-- How much a notice matters. -/
def level : Notice → Level
  | compensationFailed | cancelAfterLossFailed | retriesExhausted | sweepFailed => .error
  | seatNotAvailable | stockSoldOut | seatSaleRejected | stockSaleRejected | insertFailed
  | bookingRejected | holdLost | notRetryable | retrying | holdsReclaimed | databaseFailed
  | taskFailed | taskTimedOut | recorderTaken => .warn
  | seatAlreadyHeld | stockAlreadyHeld | releaseHadNoEffect | bookingReplayed | reservationRefused
  | sagaCompleted | sweepFoundNothing | bookingInserted | concurrentTake
  | releaseFailureInjected => .debug
  | seatReserved | stockReserved | seatSold | stockSold | holdReleased | attemptStoredElsewhere
  | bookingCommitted | bookingFailed | bookingConfirmed | bookingCancelled | retrySucceeded
  | reclaimerStarted | reclaimerStopping | categoryProvisioned | poolReady | serviceRunning
  | interruptReceived | terminationReceived | shutdownStarted | shutdownComplete | taskStopped
  | metricsServed _ | starting | configured => .info

/-- The wording of a notice. -/
def text : Notice → String
  | seatReserved => "Seat reserved"
  | seatAlreadyHeld => "Seat already held by this hold"
  | seatNotAvailable => "Seat not available"
  | stockReserved => "Stock unit reserved"
  | stockAlreadyHeld => "Stock already held by this hold"
  | stockSoldOut => "Stock sold out"
  | seatSold => "Seat sold"
  | seatSaleRejected => "Seat confirm rejected: hold lapsed, released or taken over"
  | stockSold => "Stock unit sold"
  | stockSaleRejected => "Stock confirm rejected"
  | holdReleased => "Hold released"
  | releaseHadNoEffect => "Release was a no-op"
  | bookingReplayed => "Replaying existing booking"
  | reservationRefused => "Reservation refused"
  | attemptStoredElsewhere => "Concurrent request already stored this attempt"
  | insertFailed => "Booking insert failed, releasing hold"
  | compensationFailed => "Compensating release failed; hold will be reclaimed on expiry"
  | bookingCommitted => "Booking committed"
  | bookingRejected => "Booking rejected"
  | bookingFailed => "Booking failed"
  | sagaCompleted => "Booking saga completed"
  | bookingConfirmed => "Booking confirmed"
  | holdLost => "Hold no longer valid, cancelling booking"
  | cancelAfterLossFailed => "Failed to cancel booking after lost hold"
  | bookingCancelled => "Booking cancelled"
  | retrySucceeded => "Operation succeeded after retry"
  | notRetryable => "Error is not retryable, failing immediately"
  | retriesExhausted => "Operation failed after max retries"
  | retrying => "Operation failed, retrying"
  | sweepFoundNothing => "Reclaim sweep found no lapsed holds"
  | holdsReclaimed => "Reclaimed lapsed holds"
  | sweepFailed => "Reclaim sweep failed"
  | reclaimerStarted => "Expiry reclaimer started"
  | reclaimerStopping => "Expiry reclaimer stopping"
  | bookingInserted => "Booking inserted"
  | databaseFailed => "database operation failed"
  | categoryProvisioned => "Provisioned category"
  | concurrentTake => "Concurrent stock take for the same hold"
  | releaseFailureInjected => "Injecting release failure"
  | poolReady => "Database pool ready"
  | serviceRunning => "Service running"
  | interruptReceived => "Received Ctrl+C signal"
  | terminationReceived => "Received SIGTERM signal"
  | shutdownStarted => "Initiating graceful shutdown..."
  | shutdownComplete => "Graceful shutdown complete"
  | taskStopped => "Task stopped gracefully"
  | taskFailed => "Task failed"
  | taskTimedOut => "Task shutdown timed out"
  | recorderTaken => "Metrics recorder already initialized, skipping re-initialization"
  | metricsServed address =>
    "Metrics server started - available at http://" ++ address ++ "/metrics"
  | starting => "Starting Ticket Tix..."
  | configured => "Configuration loaded"

/-- The notice as the log shows it. -/
def line (n : Notice) : String :=
  n.level.name ++ " " ++ n.text

end Notice

end BoxOffice
