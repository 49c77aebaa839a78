import BoxOffice.Rehearsal.Setup

/-!
# Rehearsing the whole service

The service is launched on the two scripted databases and run until it is told to stop. The clock
stands still at a moment of the present.
-/

namespace BoxOffice.Rehearsal

/-- How a process is told to stop. -/
inductive Signal
  | interrupt
  | termination
  deriving DecidableEq, Repr

/-- The notice of a signal. -/
def Signal.notice : Signal → Notice
  | .interrupt => .interruptReceived
  | .termination => .terminationReceived

/-- A moment of the present, 2026-03-01T12:34:56.789012345Z. -/
def present : Instant := .ofParts 1772368496 789012345

/-- The service with its configuration, on some databases. -/
def Setup.ofConfig (c : Config) (databases : Databases) : Setup :=
  { Setup.plain with
    start := present
    databaseLedger := true
    store := .database
    databases := some databases
    config := some c
    naming := false }

namespace World

/-- Answers a call to the hosts of the databases. -/
def hostingAnswer : (c : Hosting.Call) → Play World c.Reply
  | .connect side settings => do
    let w ← get
    match w.databases.connect side settings with
    | .ok databases =>
      set { w with databases }
      return (.ok () : Except SqlFailure Unit)
    | .error f => return (.error f : Except SqlFailure Unit)
  | .schema side .records => do
    let d := (← get).databases
    return (.ok (d.host (d.place side)).records : Except SqlFailure (List AppliedMigration))
  | .schema side (.send s) => send side s

/-- Answers the calls of a launch. -/
def launchAnswer : (c : LaunchWorld.Call) → Play World (LaunchWorld.Reply c)
  | .inl c => hostingAnswer c
  | .inr c => surround c

/-- Plays a launch. -/
def launch (phase : Launch.Phase Unit) : Play World (Except LaunchProblem Unit) :=
  phase.run.run launchAnswer

/-- Sweeps once, and again while the inventory's database has replies left. -/
def sweepOut : (more : Nat) → Play World Unit
  | 0 => atInventory Reclaimer.tick
  | more + 1 => do
    atInventory Reclaimer.tick
    if !(← get).databases.inventory.replies.isEmpty then sweepOut more

/-- Runs the service until a signal comes, after one sweep and at most so many more. -/
def runUntil (c : Config) (signal : Signal) (more : Nat) : Play World Unit := do
  surround (.record (.notice .serviceRunning))
  let l ← begin (.start c.reclaimInterval)
  if l.isSound then sweepOut more
  surround (.record (.notice signal.notice))
  shutDown (← patience c) l

/-- The whole life of a process. -/
def process (c : Config) (signal : Signal) : Play World (Except LaunchProblem Unit) := do
  match ← launch (Launch.process c) with
  | .error problem => return .error problem
  | .ok () =>
    let more := (← get).databases.inventory.replies.length
    runUntil c signal more
    return .ok ()

end World

end BoxOffice.Rehearsal
