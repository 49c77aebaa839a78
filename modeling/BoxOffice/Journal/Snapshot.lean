import BoxOffice.Double.Parts
import BoxOffice.Journal.Record
import BoxOffice.Text.Decimal

/-!
# Snapshots of the metrics

The metrics of a journal under the names by which they are asked for: in short, one number for each
counter, gauge and histogram that was touched; or sample by sample, as a scrape shows them.
-/

namespace BoxOffice.Journal

/-- A metric's name with its labels. -/
def keyOf (quote : String) (name : String) (labels : List (String × String)) : String :=
  if labels.isEmpty then name
  else name ++ "\x7b" ++
    ",".intercalate (labels.map fun (key, value) => key ++ "=" ++ quote ++ value ++ quote) ++ "\x7d"

/-- The gauge, if it was set: it keeps its value in double precision. -/
def gauge (entries : List Entry) : List (String × Int) :=
  (lastSuccess? entries).toList.map fun seconds =>
    (Metric.reclaimLastSuccess.name, Double.nearestInteger seconds)

/-- One number for each metric that was touched: the value of a counter and of a gauge, the number
of samples of a histogram. -/
def snapshot (entries : List Entry) : List (String × Int) :=
  let counters := (countersOf entries).map fun c =>
    (keyOf "" c.metric.name c.labels, Int.ofNat (total c entries))
  let timings := durations entries
  let histogram :=
    if timings.isEmpty then []
    else [(Metric.reclaimDuration.name, Int.ofNat timings.length)]
  counters ++ histogram ++ gauge entries

/-- The upper bounds of the buckets that durations are sorted into, in nanoseconds, with the text
that shows them in seconds. -/
def bucketBounds : List (Nat × String) :=
  [(1000000, "0.001"), (5000000, "0.005"), (10000000, "0.01"), (25000000, "0.025"),
    (50000000, "0.05"), (100000000, "0.1"), (250000000, "0.25"), (500000000, "0.5"),
    (1000000000, "1"), (2500000000, "2.5"), (5000000000, "5"), (10000000000, "10")]

/-- The samples that a scrape shows of the counters and histograms, and the gauge. A sample that did
not grow is left out. -/
def samples (entries : List Entry) : List (String × Int) :=
  let counters := (countersOf entries).map fun c =>
    (keyOf "\"" c.metric.name c.labels, Int.ofNat (total c entries))
  let timings := durations entries
  let bucket := Metric.reclaimDuration.name ++ "_bucket"
  let buckets := bucketBounds.map fun (bound, text) =>
    (keyOf "\"" bucket [("le", text)], Int.ofNat (timings.countP fun d => d.nanos ≤ bound))
  let overall := [(keyOf "\"" bucket [("le", "+Inf")], Int.ofNat timings.length),
    (Metric.reclaimDuration.name ++ "_count", Int.ofNat timings.length)]
  (counters ++ buckets ++ overall).filter (fun sample => sample.2 != 0) ++ gauge entries

end BoxOffice.Journal
