import BoxOffice.Bookings.Memory
import BoxOffice.Database.Bookings
import BoxOffice.Database.Inventory
import BoxOffice.Desk
import BoxOffice.Ledger.Memory
import BoxOffice.Reclaimer
import BoxOffice.Rehearsal.Connection
import BoxOffice.Rehearsal.Doubles
import BoxOffice.Rehearsal.Stage
import BoxOffice.Service.Config
import BoxOffice.Service.Shutdown

/-!
# The rehearsal's world

A whole box office on a stage: a ledger and a store of some kind behind the services, with faults
laid out for calls on the way. Each service's calls are answered by the part behind it, down to the
ledger, the store and the stage.
-/

namespace BoxOffice.Rehearsal

/-- The ledger of a rehearsal. -/
inductive LedgerPart
  | memory (ledger : MemoryLedger)
  | database

/-- The booking store of a rehearsal. -/
inductive StorePart
  | memory (store : MemoryStore)
  | database
  | refusing (store : RefusingStore)

/-- The settings of a rehearsal in which the service is put together from its configuration. -/
structure AppPart where
  config : Config
  /-- The service has been run. -/
  ran : Bool

/-- A reclaimer's loop in the background. It does nothing until something is waited for: only then it
gets its first turn. Without time between its sweeps it breaks down at that turn. -/
structure Loop where
  interval : Delay
  /-- It had its first turn. -/
  begun : Bool
  /-- How long it has been there. -/
  elapsed : Delay
  /-- When its next sweep is due. -/
  due : Delay

namespace Loop

/-- A loop that had no turn yet. -/
def start (interval : Delay) : Loop where
  interval := Stage.recurring interval
  begun := false
  elapsed := .zero
  due := .zero

/-- The loop can go on from turn to turn. -/
def isSound (l : Loop) : Bool :=
  l.interval ≠ .zero

/-- The loop has not broken down. -/
def isAlive (l : Loop) : Bool :=
  l.isSound || !l.begun

/-- How the loop ends when it is told to stop now. -/
def ending (l : Loop) : TaskEnd :=
  if l.isSound then .stops l.elapsed
  else .breaks (if l.begun then .zero else l.elapsed)

end Loop

/-- A whole box office on a stage. -/
structure World where
  stage : Stage
  /-- The clock cannot be moved. -/
  fixedClock : Bool
  ledger : LedgerPart
  store : StorePart
  databases : Databases
  /-- The world has a database. -/
  hasDatabase : Bool
  plan : FaultPlan
  flaky : FlakyReleases
  hold : Span
  policy : RetryPolicy
  app : Option AppPart
  /-- The bookings that have been named, in the order of their names, if bookings get names. -/
  named : Option (List BookingId)
  tokens : Registry String Token
  /-- Loops that were told to stop and not waited for. -/
  abandoned : List Loop

namespace World

/-- Answers a call to the surroundings by the stage. -/
def onStage (c : Surroundings.Call) : Play World c.Reply := do
  let w ← get
  let (reply, stage) := w.stage.answer c
  set { w with stage }
  liftExcept reply
where
  /-- Goes on with a value, or breaks down. -/
  liftExcept {α : Type} (reply : Except Breakdown α) : Play World α :=
    ExceptT.mk (pure reply)

/-- Gives a loop its first turn. -/
def begin (l : Loop) : Play World Loop := do
  if !l.begun && l.isSound then onStage (.record (.notice .reclaimerStarted))
  return { l with begun := true }

/-- Gives a loop that was told to stop its last turn. -/
def finish (l : Loop) : Play World Unit := do
  let l ← begin l
  if l.isSound then onStage (.record (.notice .reclaimerStopping))

/-- Lets the abandoned loops finish. -/
def finishAbandoned : Play World Unit := do
  let loops := (← get).abandoned
  modify fun w => { w with abandoned := [] }
  loops.forM finish

/-- Leaves a loop to itself after it was told to stop. -/
def abandon (l : Loop) : Play World Unit :=
  modify fun w => { w with abandoned := w.abandoned ++ [l] }

/-- Answers a call to the surroundings. While there is a wait, abandoned loops finish. -/
def surround (c : Surroundings.Call) : Play World c.Reply := do
  if let .wait delay := c then
    if delay ≠ .zero then finishAbandoned
  onStage c

/-- Sends a statement to the database of a side, and waits for what it says. -/
def send (side : Side) (s : Statement) : Play World (Except SqlFailure SqlAnswer) := do
  finishAbandoned
  let w ← get
  let (reply, databases) := w.databases.answer side s
  set { w with databases }
  return reply

/-- What was sent to each database, in order; it is not kept. -/
def takeSent (w : World) : (Side → List Statement) × World :=
  let (toInventory, inventory) := w.databases.inventory.takeSent
  let (toBooking, booking) := w.databases.booking.takeSent
  (fun
    | .inventory => toInventory
    | .booking => toBooking,
    { w with databases := { w.databases with inventory, booking } })

/-- The world with what was sent forgotten. -/
def forgetSent (w : World) : World :=
  w.takeSent.2

/-- The lines of the log that were not looked at yet. -/
def takeLines (w : World) : List String × World :=
  (w.stage.unread, { w with stage := w.stage.markRead })

/-- Answers the calls of the database stores. -/
def databaseAnswer (side : Side) :
    (c : DatabaseWorld.Call) → Play World (DatabaseWorld.Reply c)
  | .inl s => send side s
  | .inr c => surround c

/-- Answers a call to the ledger, without faults. -/
def ledgerAnswer (c : Ledger.Call) : Play World (Result c.Answer) := do
  let w ← get
  match w.ledger with
  | .memory ledger =>
    let (reply, ledger) := ledger.answer c
    set { w with ledger := .memory ledger }
    return reply
  | .database => (DatabaseLedger.answer c).run (databaseAnswer .inventory)

/-- Answers a call to the booking store, without faults. -/
def storeAnswer (c : BookingStore.Call) : Play World (Result c.Answer) := do
  let w ← get
  match w.store with
  | .memory store =>
    let (reply, store) := store.answer w.stage.nextBooking w.stage.now c
    set { w with store := .memory store, stage := w.stage.markMade }
    return reply
  | .database => (DatabaseStore.answer c).run (databaseAnswer .booking)
  | .refusing store =>
    let (reply, store) := store.answer c
    set { w with store := .refusing store }
    return reply

/-- Makes a call under a name, unless a fault is laid out for it. -/
def withFaults {α : Type} (name : String) (call : Play World (Result α)) :
    Play World (Result α) := do
  let w ← get
  let (fault, plan) := w.plan.next name
  set { w with plan }
  match fault with
  | none => call
  | some fault =>
    if fault.after then
      let _ ← call
    return .error fault.error

/-- The name of a call to the ledger. -/
def ledgerCallName : Ledger.Call → String
  | .category _ => "ledger.category"
  | .seat _ _ => "ledger.seat"
  | .reserveSeat _ => "ledger.reserve_seat"
  | .releaseSeat _ _ _ => "ledger.release_seat"
  | .sellSeat _ _ _ _ => "ledger.sell_seat"
  | .takeStock _ _ _ _ => "ledger.take_stock"
  | .stockHold _ _ => "ledger.stock_hold"
  | .returnStock _ _ => "ledger.return_stock"
  | .settleStock _ _ _ => "ledger.settle_stock"
  | .reclaim _ => "ledger.reclaim_expired"
  | .availability _ _ => "ledger.availability"

/-- Answers the calls of the inventory service and of the reclaimer. -/
def inventoryAnswer : (c : InventoryWorld.Call) → Play World (InventoryWorld.Reply c)
  | .inl c => withFaults (ledgerCallName c) (ledgerAnswer c)
  | .inr c => surround c

/-- Answers a call to the inventory service. -/
def reservationAnswer (c : Reservations.Call) : Play World (Result c.Answer) := do
  (Reservations.answer (← get).hold c).run inventoryAnswer

/-- Answers a call to the inventory service behind the releases that fail at first. -/
def flakyAnswer : (c : Reservations.Call) → Play World (Result c.Answer)
  | .reserve request => do
    modify fun w => { w with flaky := { w.flaky with reserves := w.flaky.reserves + 1 } }
    reservationAnswer (.reserve request)
  | .release token => do
    let flaky := (← get).flaky
    modify fun w => { w with flaky :=
      { flaky with releases := flaky.releases + 1, failing := flaky.failing - 1 } }
    if flaky.failing = 0 then reservationAnswer (.release token)
    else
      surround (.record (.notice .releaseFailureInjected))
      return refuse .inventoryUnreachable
  | c => reservationAnswer c

/-- Answers the calls of the front desk. -/
def deskAnswer : (c : DeskWorld.Call) → Play World (DeskWorld.Reply c)
  | .inl c => do
    if (← get).app.isSome then reservationAnswer c
    else withFaults (reservationCallName c) (flakyAnswer c)
  | .inr (.inl c) => withFaults (storeCallName c) (storeAnswer c)
  | .inr (.inr c) => surround c

/-- Runs a program of the front desk. -/
def atDesk {α : Type} (p : Program DeskWorld α) : Play World α :=
  p.run deskAnswer

/-- Runs a program of the inventory. -/
def atInventory {α : Type} (p : Program InventoryWorld α) : Play World α :=
  p.run inventoryAnswer

/-- Moves the clock. -/
def moveClock (time : Instant) : Play World Unit :=
  modify fun w => { w with stage := { w.stage with now := time } }

/-- Moves the clock by a span, if it knows the instant. -/
def advanceClock (span : Span) : Play World Unit := do
  match (← get).stage.now.add? span with
  | some t => moveClock t
  | none => throw .outOfTime

/-- One act while a loop runs in the background. -/
inductive Act
  | sleep (delay : Delay)
  | advance (span : Span)

/-- Lets some time pass while a loop runs. -/
def sleep (delay : Delay) (l : Loop) : Play World Loop := do
  if delay = .zero then return l
  finishAbandoned
  let l ← begin l
  let elapsed := l.elapsed + Stage.lasting delay
  let due ← atInventory (Reclaimer.sweepUntil l.interval l.due elapsed)
  return { l with elapsed, due }

/-- Plays some acts while a loop runs; if one of them breaks down the loop is left to itself. -/
def playActs : List Act → Loop → Play World Loop
  | [], l => return l
  | .advance span :: rest, l => do
    tryCatch (advanceClock span) fun breakdown => do
      abandon l
      throw breakdown
    playActs rest l
  | .sleep delay :: rest, l => do
    playActs rest (← sleep delay l)

/-- What is seen of a loop: it was alive before it was stopped, and it came to a regular end. -/
structure LoopReport where
  running : Bool
  stopped : Bool

/-- Runs the reclaimer's loop while some acts are played, stops it and waits for its end. -/
def runReclaimer (interval : Delay) (acts : List Act) : Play World LoopReport := do
  let l ← playActs acts (.start interval)
  if l.isAlive then finishAbandoned
  finish l
  return { running := l.isAlive, stopped := l.isSound }

/-- Shuts the service down: waits for its loop as long as its patience lasts. -/
def shutDown (patience : Delay) (l : Loop) : Play World Unit := do
  surround (.record (.notice .shutdownStarted))
  let (outcome, _) := Shutdown.awaitTask patience l.elapsed l.ending
  if outcome = .timedOut then abandon l
  else
    if l.isAlive then finishAbandoned
    finish l
  surround (.record (.notice outcome.notice))
  surround (.record (.notice .shutdownComplete))

/-- How long the service waits for its loop: with a database time is real, and the loop always gets
a turn before the wait is over. -/
def patience (c : Config) : Play World Delay := do
  return if (← get).hasDatabase && c.shutdownTimeout = .zero then .ofMillis 1
    else c.shutdownTimeout

/-- Runs the service while some acts are played. -/
def runService (c : Config) (acts : List Act) : Play World Unit := do
  surround (.record (.notice .serviceRunning))
  let l ← playActs acts (.start c.reclaimInterval)
  shutDown (← patience c) l

end World

end BoxOffice.Rehearsal
