import BoxOffice.Rehearsal.Fixtures
import BoxOffice.Rehearsal.World

/-!
# Setting up a rehearsal

What is decided before the first step: the clock, the ledger and the store, the faults laid out, and
the categories that are there already. A set-up that asks for a database needs its replies.
-/

namespace BoxOffice.Rehearsal

/-- The kinds of booking stores. -/
inductive StoreChoice
  | memory
  | database
  | refusing (store : RefusingStore)

/-- The sizes of the two categories that are there already. -/
structure FixtureSizes where
  seats : UInt32
  places : UInt32

/-- What is decided before the first step. -/
structure Setup where
  start : Instant
  fixedClock : Bool
  fixtures : Option FixtureSizes
  hold : Span
  policy : RetryPolicy
  databaseLedger : Bool
  store : StoreChoice
  /-- The databases, if there are any. -/
  databases : Option Databases
  faults : List (String × List (Option Fault))
  /-- How many releases fail at first. -/
  failingReleases : Nat
  /-- The configuration from which the service is put together, if it is. -/
  config : Option Config
  /-- Bookings with random identifiers are called by names. -/
  naming : Bool

namespace Setup

/-- A rehearsal in memory with nothing out of the ordinary. -/
def plain : Setup where
  start := t0
  fixedClock := false
  fixtures := none
  hold := Config.defaultHold
  policy := .default
  databaseLedger := false
  store := .memory
  databases := none
  faults := []
  failingReleases := 0
  config := none
  naming := true

/-- The set-up asks for a database. -/
def needsDatabase (s : Setup) : Bool :=
  s.databaseLedger || match s.store with
    | .database => true
    | _ => false

/-- Bookings get names where their identifiers are random. -/
def namesBookings (s : Setup) : Bool :=
  s.naming && match s.store with
    | .refusing _ => false
    | _ => true

/-- How compensation is retried when the service is put together from a configuration. -/
def configuredPolicy (c : Config) : RetryPolicy :=
  { RetryPolicy.default with
    maxRetries := c.reservation.compensationMaxRetries
    jitter := true }

/-- The world before its categories are there. -/
def emptyWorld (s : Setup) : World where
  stage := .start s.start
  fixedClock := s.fixedClock
  ledger := if s.databaseLedger then .database else .memory .empty
  store :=
    match s.store with
    | .memory => .memory .empty
    | .database => .database
    | .refusing store => .refusing store
  databases := s.databases.getD (.single (.start []))
  hasDatabase := s.needsDatabase
  plan := { FaultPlan.empty with
    queues := s.faults.foldl (fun queues (name, queue) => queues.set name queue) ∅ }
  flaky := { failing := s.failingReleases, reserves := 0, releases := 0 }
  hold := s.config.elim s.hold Config.holdDuration
  policy := s.config.elim s.policy configuredPolicy
  app := s.config.map fun config => { config, ran := false }
  named := if s.namesBookings then some [] else none
  tokens := ∅
  abandoned := []

/-- Provides a category with its seats, in whichever ledger the world has. -/
def provide (category : Category) (labels : List String) : Play World (Result Unit) := do
  match (← get).ledger with
  | .memory ledger =>
    let (answer, ledger) : Result Unit × MemoryLedger :=
      match category.layout with
      | .seated =>
        let (seats, ledger) := ledger.addSeated category labels
        (seats.map fun _ => (), ledger)
      | .standing => ledger.addStanding category
    modify fun w => { w with ledger := .memory ledger }
    return answer
  | .database =>
    let stored ← (DatabaseLedger.provision category labels).run.run
      (World.databaseAnswer .inventory)
    return stored.map fun _ => ()

/-- Provides the categories that are there already. -/
def provideFixtures (sizes : FixtureSizes) : Play World (Result Unit) := do
  match ← provide vip (seatLabels "VIP" sizes.seats.toNat) with
  | .ok () => provide (ga sizes.places) []
  | .error e => return .error e

/-- The world of a set-up, if it makes sense. What was said to the database until then is not kept. -/
def world? (s : Setup) : Option World :=
  if s.needsDatabase && s.databases.isNone then none
  else match s.fixtures with
    | none => some s.emptyWorld
    | some sizes =>
      match (provideFixtures sizes).run.run s.emptyWorld with
      | (.ok (.ok ()), w) => some w.forgetSent
      | _ => none

end Setup

end BoxOffice.Rehearsal
