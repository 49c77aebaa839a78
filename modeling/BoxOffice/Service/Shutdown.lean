import BoxOffice.Journal.Record
import BoxOffice.Time.Delay

/-!
# Shutdown

The tasks of the service run side by side; on shutdown they are waited for one after the other, each
for at most the same time. A task that ends exactly when its time is over comes too late.
-/

namespace BoxOffice

/-- How a task of the service goes on after it was started. -/
inductive TaskEnd
  | never
  /-- The task is done after some time. -/
  | stops (after : Delay)
  /-- The task breaks down after some time. -/
  | breaks (after : Delay)
  deriving DecidableEq, Repr

/-- What came of waiting for a task. -/
inductive TaskOutcome
  | stopped
  | failed
  | timedOut
  deriving DecidableEq, Repr

namespace TaskEnd

/-- When the task ends and how, if it does. -/
def ending : TaskEnd → Option (Delay × TaskOutcome)
  | never => none
  | stops after => some (after, .stopped)
  | breaks after => some (after, .failed)

end TaskEnd

/-- The notice of an outcome. -/
def TaskOutcome.notice : TaskOutcome → Notice
  | .stopped => .taskStopped
  | .failed => .taskFailed
  | .timedOut => .taskTimedOut

namespace Shutdown

/-- Waits for one task: what came of it, and the time when the wait is over. -/
def awaitTask (timeout now : Delay) (task : TaskEnd) : TaskOutcome × Delay :=
  let deadline := now + timeout
  match task.ending with
  | some (after, outcome) =>
    if after < deadline then (outcome, if now ≤ after then after else now)
    else (.timedOut, deadline)
  | none => (.timedOut, deadline)

/-- Waits for the tasks one after the other: what came of each, and the time when all is over. -/
def await (timeout : Delay) : (now : Delay) → List TaskEnd → List TaskOutcome × Delay
  | now, [] => ([], now)
  | now, task :: rest =>
    let (outcome, now) := awaitTask timeout now task
    let (outcomes, finish) := await timeout now rest
    (outcome :: outcomes, finish)

end Shutdown

end BoxOffice
