import BoxOffice.Journal.Metric
import BoxOffice.Journal.Notice

/-!
# The journal

Everything that is written down while the box office works, in order: notices and measurements.
Totals are read off the list of entries; `total_append` adds them up part by part.
-/

namespace BoxOffice

/-- One entry of the journal. -/
inductive Entry
  | notice (notice : Notice)
  | measured (measurement : Measurement)
  deriving DecidableEq, Repr

namespace Journal

/-- How far an entry moves a counter. -/
def growth (counter : Counter) : Entry → Nat
  | .measured (.count c amount) => if c = counter then amount else 0
  | _ => 0

/-- The value of a counter after some entries. -/
def total (counter : Counter) : List Entry → Nat
  | [] => 0
  | entry :: rest => growth counter entry + total counter rest

@[simp] theorem total_nil (counter : Counter) : total counter [] = 0 := rfl

@[simp] theorem total_cons (counter : Counter) (entry : Entry) (entries : List Entry) :
    total counter (entry :: entries) = growth counter entry + total counter entries := rfl

@[simp] theorem total_append (counter : Counter) (first second : List Entry) :
    total counter (first ++ second) = total counter first + total counter second := by
  induction first with
  | nil => simp
  | cons entry rest ih => simp [ih, Nat.add_assoc]

/-- The lines of the log. -/
def lines (entries : List Entry) : List String :=
  entries.filterMap fun
    | .notice n => some n.line
    | .measured _ => none

/-- The measurements that were made. -/
def measurements (entries : List Entry) : List Measurement :=
  entries.filterMap fun
    | .notice _ => none
    | .measured m => some m

/-- The counters that were moved, perhaps by nothing, each once. -/
def countersOf (entries : List Entry) : List Counter :=
  ((measurements entries).filterMap fun
    | .count c _ => some c
    | _ => none).eraseDups

/-- How long the sweeps took. -/
def durations (entries : List Entry) : List Delay :=
  (measurements entries).filterMap fun
    | .sweepDuration d => some d
    | _ => none

/-- When the last successful sweep ended. -/
def lastSuccess? (entries : List Entry) : Option Int :=
  ((measurements entries).filterMap fun
    | .sweepSuccess seconds => some seconds
    | _ => none).getLast?

end Journal

end BoxOffice
