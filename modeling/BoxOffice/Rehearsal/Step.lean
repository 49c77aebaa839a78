import BoxOffice.Journal.Snapshot
import BoxOffice.Rehearsal.Fixtures
import BoxOffice.Rehearsal.World

/-!
# The steps of a rehearsal

A rehearsal is a list of steps: calls to the services, to the ledger and to the store, moves of the
clock, and looks at what was written down. A step that makes no sense in its world is refused and
changes nothing.
-/

namespace BoxOffice.Rehearsal

/-- A token given in full, or by the name it was remembered under. -/
inductive TokenRef
  | given (token : Token)
  | named (name : String)

/-- A booking given by its identifier, or by the name that it has in the rehearsal. -/
inductive BookingRef
  | given (id : BookingId)
  | named (name : String)

/-- A step of a rehearsal. -/
inductive Step
  | now
  | advance (span : Span)
  | setClock (time : Instant)
  | addSeated (category : Category) (labels : List String)
  | addStanding (category : Category)
  | provision (category : Category) (labels : List String)
  /-- A call to the ledger, made at the given time or now. -/
  | ledger (time : Option Instant) (call : Instant → Ledger.Call)
  | reserve (request : ReserveRequest) (name : Option String)
  | release (token : TokenRef)
  | confirm (token : TokenRef)
  | availability (category : CategoryId)
  | book (request : BookingRequest)
  | confirmBooking (booking : BookingRef)
  | cancelBooking (booking : BookingRef)
  | storeCreate (draft : BookingDraft)
  | storeGet (booking : BookingRef)
  | storeFind (attempt : HoldId)
  | storeTransition (booking : BookingRef) (expected target : BookingStatus)
  | storeSize
  | sweep
  | runReclaimer (interval : Option Delay) (acts : List World.Act)
  | runService (acts : List World.Act)
  | settings
  | metrics
  | logs
  | calls

/-- Why a step has no answer. -/
inductive StepProblem
  /-- The operation ended with an error. -/
  | failed (error : Error)
  /-- The step makes no sense in this world. -/
  | senseless
  | brokeDown (breakdown : Breakdown)

/-- What a step is answered with. -/
abbrev StepAnswer : Type :=
  Except StepProblem Json

/-- A play that may find that a step makes no sense. -/
abbrev Attempt : Type → Type :=
  ExceptT StepProblem (StateM World)

namespace Step

/-- A part of a play that may break down. -/
def during {α : Type} (p : Play World α) : Attempt α := do
  match ← (p.run : StateM World _) with
  | .ok a => return a
  | .error breakdown => throw (.brokeDown breakdown)

/-- A part of a play that answers with a value or an error. -/
def succeeding {α : Type} (p : Play World (Result α)) : Attempt α := do
  match ← during p with
  | .ok a => return a
  | .error e => throw (.failed e)

/-- The step makes no sense. -/
def senseless {α : Type} : Attempt α :=
  throw .senseless

/-- The token of a reference. -/
def token : TokenRef → Attempt Token
  | .given token => return token
  | .named name => do
    match (← get).tokens.get? name with
    | some token => return token
    | none => senseless

/-- The name of a booking by its place among the named ones. -/
def bookingName (index : Nat) : String :=
  "B" ++ Text.decimal (index + 1)

/-- The booking of a reference. -/
def booking : BookingRef → Attempt BookingId
  | .given id => return id
  | .named name => do
    let named := (← get).named.getD []
    match named[(List.range named.length).findIdx fun i => bookingName i == name]? with
    | some id => return id
    | none => senseless

/-- A booking as it is shown, named if it was not yet. -/
def showBooking (b : Booking) : Attempt Json := do
  match (← get).named with
  | none => return encode b
  | some named =>
    let index := named.findIdx (· = b.id)
    if index = named.length then modify fun w => { w with named := some (named ++ [b.id]) }
    match encode b with
    | .object ((_, _) :: rest) => return .object (("id", .text (bookingName index)) :: rest)
    | j => return j

/-- A text in which named bookings are called by their names. -/
def callByName (w : World) (text : String) : String :=
  let named := w.named.getD []
  (named.zip (List.range named.length)).foldl
    (fun text (id, index) => text.replace id.value.render (bookingName index)) text

/-- What a pool answered. -/
def showOutcome : StockOutcome → Json
  | .taken hold => .object [("taken", encode hold)]
  | .existing hold => .object [("existing", encode hold)]
  | .soldOut => .text "sold_out"

/-- The answer of a call to the ledger. -/
def showLedgerAnswer : (c : Ledger.Call) → c.Answer → Json
  | .category _, (answer : Option Category) => encode answer
  | .seat _ _, (answer : Option Seat) => encode answer
  | .reserveSeat _, (answer : Option Seat) => encode answer
  | .releaseSeat _ _ _, (answer : Bool) => encode answer
  | .sellSeat _ _ _ _, (answer : Bool) => encode answer
  | .takeStock _ _ _ _, (answer : StockOutcome) => showOutcome answer
  | .stockHold _ _, (answer : Option StockHold) => encode answer
  | .returnStock _ _, (answer : Bool) => encode answer
  | .settleStock _ _ _, (answer : Bool) => encode answer
  | .reclaim _, (answer : SweepReport) => encode answer
  | .availability _ _, (answer : Option Availability) => encode answer

/-- A change of the ledger in memory; other ledgers do not know it. -/
def changeMemory {α : Type} (change : MemoryLedger → Result α × MemoryLedger) : Attempt α := do
  match (← get).ledger with
  | .memory stored =>
    let (answer, changed) := change stored
    modify fun w => { w with ledger := .memory changed }
    succeeding (pure answer)
  | .database => senseless

/-- A report as a sweep shows it. -/
def showReport (r : SweepReport) : Json :=
  .object [("seats", encode r.seats), ("stock", encode r.stock), ("total", encode r.total),
    ("is_empty", encode r.isEmpty)]

/-- The standing category as the inventory service sees it. -/
def standingCategory : Play World (Result (Option Category)) :=
  World.atInventory (Ledger.category (I := InventoryWorld) gaId).run

/-- The numbers of a snapshot by their names. -/
def showSnapshot (numbers : List (String × Int)) : Json :=
  .object (numbers.map fun (name, n) => (name, .ofInt n))

/-- Acts that move a clock make sense only where it can be moved. -/
def checkActs (acts : List World.Act) : Attempt Unit := do
  let moves := acts.any fun
    | .advance _ => true
    | .sleep _ => false
  if moves && (← get).fixedClock then senseless

/-- The answer of a step. -/
def answer : Step → Attempt Json
  | now => return encode (← get).stage.now
  | advance span => do
    if (← get).fixedClock then senseless
    during (World.advanceClock span)
    return encode (← get).stage.now
  | setClock time => do
    if (← get).fixedClock then senseless
    during (World.moveClock time)
    return encode time
  | addSeated category labels => do
    return encode (← changeMemory fun l => l.addSeated category labels)
  | addStanding category => do
    let () ← changeMemory fun l => l.addStanding category
    return .null
  | provision category labels => do
    match (← get).ledger with
    | .memory _ => senseless
    | .database =>
      let stored ← succeeding
        ((DatabaseLedger.provision category labels).run.run (World.databaseAnswer .inventory))
      return encode stored
  | ledger time call => do
    let c := call (time.getD (← get).stage.now)
    return showLedgerAnswer c (← succeeding (World.ledgerAnswer c))
  | reserve request name => do
    let token : Token ← succeeding (World.flakyAnswer (.reserve request))
    if let some name := name then
      modify fun w => { w with tokens := w.tokens.set name token }
    return encode token
  | release ref => do
    let () ← succeeding (World.flakyAnswer (.release (← token ref)))
    return .null
  | confirm ref => do
    let () ← succeeding (World.flakyAnswer (.confirm (← token ref)))
    return .null
  | availability category => do
    let snapshot : Availability ← succeeding (World.flakyAnswer (.availability category))
    return encode snapshot
  | book request => do
    let policy := (← get).policy
    showBooking (← succeeding (World.atDesk (Desk.book policy request)))
  | confirmBooking ref => do
    let policy := (← get).policy
    let id ← booking ref
    showBooking (← succeeding (World.atDesk (Desk.confirm policy id).run))
  | cancelBooking ref => do
    let policy := (← get).policy
    let id ← booking ref
    showBooking (← succeeding (World.atDesk (Desk.cancel policy id).run))
  | storeCreate draft => do
    let stored : Booking ← succeeding (World.storeAnswer (.create draft))
    showBooking stored
  | storeGet ref => do
    let found : Option Booking ← succeeding (World.storeAnswer (.get (← booking ref)))
    found.elim (pure .null) showBooking
  | storeFind attempt => do
    let found : Option Booking ← succeeding (World.storeAnswer (.findByAttempt attempt))
    found.elim (pure .null) showBooking
  | storeTransition ref expected target => do
    let id ← booking ref
    let changed : Booking ← succeeding (World.storeAnswer (.transition id expected target))
    showBooking changed
  | storeSize => do
    match (← get).store with
    | .memory store =>
      return .object [("len", .ofNat store.bookings.size),
        ("is_empty", .bool (store.bookings.size = 0))]
    | _ => senseless
  | sweep => do
    return showReport (← succeeding (World.atInventory Reclaimer.sweep.run))
  | runReclaimer interval acts => do
    checkActs acts
    let interval := interval.getD Reclaimer.defaultInterval
    let seen ← during (World.runReclaimer interval acts)
    return .object [("interval", encode interval), ("running", .bool seen.running),
      ("stopped", .bool seen.stopped)]
  | runService acts => do
    match (← get).app with
    | some app =>
      if app.ran then senseless
      checkActs acts
      modify fun w => { w with app := some { app with ran := true } }
      during (World.runService app.config acts)
      return .null
    | none => senseless
  | settings => do
    let category ← succeeding standingCategory
    return .object [("hold_ms", .ofInt (← get).hold.millis), ("category", encode category)]
  | metrics => return showSnapshot (Journal.snapshot (← get).stage.entries)
  | logs => return encode (← modifyGet World.takeLines)
  | calls => do
    let w ← get
    set { w with plan := { w.plan with calls := [] } }
    let creates := match w.store with
      | .refusing store => .ofNat store.creates
      | _ => .null
    return .object [("calls", encode w.plan.calls.reverse),
      ("flaky_reserves", .ofNat w.flaky.reserves), ("flaky_releases", .ofNat w.flaky.releases),
      ("failing_creates", creates)]

/-- The step is a call to the front desk, whose waits are measured. -/
def isTimed : Step → Bool
  | book _ | confirmBooking _ | cancelBooking _ => true
  | _ => false

end Step

/-- What is seen of a step: its answer, how long was waited, what is left of the watched categories,
and what was said to the databases. -/
structure StepReport where
  answer : StepAnswer
  elapsed : Option Nat
  state : List Json
  sent : Side → List Statement

/-- The answer with bookings called by their names. -/
def StepProblem.callByName (w : World) : StepProblem → StepProblem
  | .failed e => .failed { e with message := Step.callByName w e.message }
  | p => p

/-- What is left of a category, looked at without faults. -/
def watch (category : CategoryId) : StateM World Json := do
  let now := (← get).stage.now
  match ← (World.ledgerAnswer (.availability category now)).run with
  | .ok (.ok (some snapshot : Option Availability)) => return encode snapshot
  | _ => return .null

/-- Plays one step; one that could not be read makes no sense. -/
def playStep (watched : List CategoryId) (step : Option Step) : StateM World StepReport := do
  let before := (← get).stage.elapsed
  let answer ← (step.elim Step.senseless Step.answer).run
  let w ← get
  let answer := answer.mapError (StepProblem.callByName w)
  let timed := step.any Step.isTimed && w.app.isNone && !w.hasDatabase &&
    match answer with
    | .ok _ | .error (.failed _) => true
    | _ => false
  let elapsed :=
    if timed then some ((w.stage.elapsed.nanos - before.nanos) / 1000000) else none
  let state ← watched.mapM watch
  let sent ← modifyGet World.takeSent
  return { answer, elapsed, state, sent }

end BoxOffice.Rehearsal
