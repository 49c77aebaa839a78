import BoxOffice.Ledger.Interface
import BoxOffice.Registry
import BoxOffice.Text.Blank

/-!
# The ledger in memory

A ledger is a registry of categories, each with its seats and its pool. A conditional change is a
partial function on one seat or one pool, and the ledger puts the changed part back in its place;
nothing else moves.
-/

namespace BoxOffice

namespace Seat

/-- The seat reserved for a claim, if it is claimable. -/
def claim? (s : Seat) (c : SeatClaim) : Option Seat :=
  if s.isClaimable c.now then some (s.reserve c.hold c.expiresAt) else none

/-- The seat given back by a hold, if the hold has it reserved. -/
def release? (s : Seat) (hold : HoldId) : Option Seat :=
  if s.status = .reserved ∧ s.hold = some hold then some s.free else none

/-- The seat sold to a hold, if the hold has it and has not lapsed. -/
def sell? (s : Seat) (hold : HoldId) (now : Instant) : Option Seat :=
  if s.isHeldBy hold now then some s.sell else none

end Seat

/-- The places of a category that are all alike, and the holds on them. -/
structure Pool where
  available : UInt32
  holds : Registry HoldId StockHold

namespace Pool

/-- The pool with some places put back, never beyond the capacity. -/
def putBack (p : Pool) (places : Nat) (total : UInt32) : Pool :=
  { p with available := UInt32.ofNat (min (p.available.toNat + places) total.toNat) }

/-- The pool with the record of a hold changed. -/
def changeHold (p : Pool) (hold : HoldId) (change : StockHold → StockHold) : Pool :=
  { p with holds := p.holds.modify hold change }

/-- Takes a place from what is available. -/
def takeFresh (p : Pool) (h : StockHold) : StockOutcome × Pool :=
  if p.available = 0 then (.soldOut, p)
  else (.taken h, { available := p.available - 1, holds := p.holds.set h.hold h })

/-- Takes a place for a hold. A live or sold hold is answered with as it is, a lapsed one is
renewed without touching the counter, and one that was given back takes a place again. -/
def take (p : Pool) (category : CategoryId) (hold : HoldId) (now expiresAt : Instant) :
    StockOutcome × Pool :=
  let fresh : StockHold := { hold, category, state := .held, expiresAt }
  match p.holds.get? hold with
  | none => p.takeFresh fresh
  | some h =>
    match h.state with
    | .held =>
      if now ≤ h.expiresAt then (.existing h, p)
      else (.taken { h with expiresAt }, p.changeHold hold fun h => { h with expiresAt })
    | .confirmed => (.existing h, p)
    | .released | .expired => p.takeFresh fresh

/-- The pool with a held place given back, if the hold has one. -/
def giveBack? (p : Pool) (hold : HoldId) (total : UInt32) : Option Pool :=
  match p.holds.get? hold with
  | some h =>
    if h.state = .held then
      some ((p.changeHold hold fun h => { h with state := .released }).putBack 1 total)
    else none
  | none => none

/-- The pool with a held place sold, if the hold has one and has not lapsed. -/
def settle? (p : Pool) (hold : HoldId) (now : Instant) : Option Pool :=
  match p.holds.get? hold with
  | some h =>
    if h.state = .held ∧ now ≤ h.expiresAt then
      some (p.changeHold hold fun h => { h with state := .confirmed })
    else none
  | none => none

/-- The number of lapsed holds. -/
def lapsed (p : Pool) (now : Instant) : Nat :=
  p.holds.values.countP fun h => h.isLapsed now

/-- The pool with every lapsed hold expired and its place put back. -/
def reclaim (p : Pool) (now : Instant) (total : UInt32) : Pool :=
  let holds := p.holds.mapValues fun h => if h.isLapsed now then { h with state := .expired } else h
  { p with holds }.putBack (p.lapsed now) total

/-- The number of holds in a state. -/
def countState (p : Pool) (state : HoldState) : Nat :=
  p.holds.values.countP fun h => h.state == state

end Pool

/-- A category with its seats and its pool. -/
structure Section where
  category : Category
  seats : Registry String Seat
  pool : Pool

namespace Section

/-- The category with what its pool has left. -/
def current (s : Section) : Category :=
  match s.category.tracking with
  | .flexible => { s.category with available := s.pool.available }
  | .fixed => s.category

/-- The number of seats whose hold has lapsed. -/
def lapsedSeats (s : Section) (now : Instant) : Nat :=
  s.seats.values.countP fun seat => seat.isLapsed now

/-- What a sweep gives back here. -/
def reclaimable (s : Section) (now : Instant) : SweepReport where
  seats := UInt64.ofNat (s.lapsedSeats now)
  stock := UInt64.ofNat (s.pool.lapsed now)

/-- The section after a sweep. -/
def reclaim (s : Section) (now : Instant) : Section :=
  { s with
    seats := s.seats.mapValues fun seat => if seat.isLapsed now then seat.free else seat
    pool := s.pool.reclaim now s.category.total }

/-- The number of seats that a hold may claim now. -/
def claimable (s : Section) (now : Instant) : Nat :=
  s.seats.values.countP fun seat => seat.isClaimable now

/-- The number of sold seats. -/
def soldSeats (s : Section) : Nat :=
  s.seats.values.countP fun seat => seat.status == .sold

/-- A snapshot of the section. -/
def availability (s : Section) (now : Instant) : Availability :=
  match s.category.layout with
  | .seated =>
    { total := s.category.total
      available := UInt32.ofNat (s.claimable now)
      reserved := UInt32.ofNat (s.seats.size - s.soldSeats - s.claimable now)
      sold := UInt32.ofNat s.soldSeats }
  | .standing =>
    { total := s.category.total
      available := s.pool.available + UInt32.ofNat (s.pool.lapsed now)
      reserved := UInt32.ofNat (s.pool.countState .held - s.pool.lapsed now)
      sold := UInt32.ofNat (s.pool.countState .confirmed) }

end Section

/-- A ledger in memory. -/
structure MemoryLedger where
  sections : Registry CategoryId Section
  /-- The identifier of the next seat. -/
  nextSeat : SeatId

namespace MemoryLedger

/-- A ledger without categories. -/
def empty : MemoryLedger where
  sections := ∅
  nextSeat := ⟨1⟩

/-- Changes a seat, if it is there and may be changed so: the seat after the change. -/
def changeSeat (l : MemoryLedger) (category : CategoryId) (label : String)
    (change : Seat → Option Seat) : Option Seat × MemoryLedger :=
  match ((l.sections.get? category).bind fun s => s.seats.get? label).bind change with
  | none => (none, l)
  | some seat =>
    (some seat, { l with sections := l.sections.modify category fun s =>
      { s with seats := s.seats.modify label fun _ => seat } })

/-- Changes the pool of a category, if it is there and may be changed so. -/
def changePool (l : MemoryLedger) (category : CategoryId) (change : Section → Option Pool) :
    Bool × MemoryLedger :=
  match (l.sections.get? category).bind change with
  | none => (false, l)
  | some pool =>
    (true, { l with sections := l.sections.modify category fun s => { s with pool } })

/-- Takes a place of a category's pool. -/
def takeStock (l : MemoryLedger) (category : CategoryId) (hold : HoldId)
    (now expiresAt : Instant) : Result StockOutcome × MemoryLedger :=
  match l.sections.get? category with
  | none => (refuse (.poolMissing category), l)
  | some s =>
    let (outcome, pool) := s.pool.take category hold now expiresAt
    (.ok outcome, { l with sections := l.sections.modify category fun s => { s with pool } })

/-- Gives back every lapsed hold. -/
def reclaim (l : MemoryLedger) (now : Instant) : SweepReport × MemoryLedger :=
  ((l.sections.values.map fun s => s.reclaimable now).foldl (· + ·) .empty,
    { l with sections := l.sections.mapValues fun s => s.reclaim now })

/-- Answers a call. -/
def answer (l : MemoryLedger) : (c : Ledger.Call) → Result c.Answer × MemoryLedger
  | .category id => (.ok ((l.sections.get? id).map Section.current), l)
  | .seat category label =>
    (.ok ((l.sections.get? category).bind fun s => s.seats.get? label), l)
  | .reserveSeat claim =>
    let (seat, l) := l.changeSeat claim.category claim.label fun s => s.claim? claim
    (.ok seat, l)
  | .releaseSeat category label hold =>
    let (seat, l) := l.changeSeat category label fun s => s.release? hold
    (.ok seat.isSome, l)
  | .sellSeat category label hold now =>
    let (seat, l) := l.changeSeat category label fun s => s.sell? hold now
    (.ok seat.isSome, l)
  | .takeStock category hold now expiresAt => l.takeStock category hold now expiresAt
  | .stockHold category hold =>
    (.ok ((l.sections.get? category).bind fun s => s.pool.holds.get? hold), l)
  | .returnStock category hold =>
    let (changed, l) := l.changePool category fun s => s.pool.giveBack? hold s.category.total
    (.ok changed, l)
  | .settleStock category hold now =>
    let (changed, l) := l.changePool category fun s => s.pool.settle? hold now
    (.ok changed, l)
  | .reclaim now =>
    let (report, l) := l.reclaim now
    (.ok report, l)
  | .availability category now =>
    (.ok ((l.sections.get? category).map fun s => s.availability now), l)

/-- A further category, unless its identifier is taken. -/
def addSection (l : MemoryLedger) (s : Section) : Result Unit × MemoryLedger :=
  if l.sections.contains s.category.id then (refuse (.categoryExists s.category.id), l)
  else (.ok (), { l with sections := l.sections.set s.category.id s })

/-- Seats for labels after those laid out before, numbered from `next`: the seats, and the number
that comes next. A number is used up also when a later label is refused. -/
def layOut (category : CategoryId) : List String → Registry String Seat → SeatId →
    Result (Registry String Seat) × SeatId
  | [], seats, next => (.ok seats, next)
  | label :: rest, seats, next =>
    if Text.isBlank label then (refuse .blankSeatLabel, next)
    else if seats.contains label then (refuse (.repeatedSeatLabel category label), next)
    else layOut category rest (seats.set label (Seat.fresh next category label)) ⟨next.value + 1⟩

/-- Adds a category with one available seat for each label. -/
def addSeated (l : MemoryLedger) (category : Category) (labels : List String) :
    Result (List Seat) × MemoryLedger :=
  if category.layout ≠ .seated ∨ category.tracking ≠ .fixed then
    (refuse (.notSeatedFixed category.id), l)
  else
    match layOut category.id labels ∅ l.nextSeat with
    | (.error e, nextSeat) => (.error e, { l with nextSeat })
    | (.ok seats, nextSeat) =>
      let l := { l with nextSeat }
      if UInt32.size ≤ seats.size then (refuse .tooManySeats, l)
      else
        let count := UInt32.ofNat seats.size
        let category := { category with total := count, available := count }
        match l.addSection { category, seats, pool := { available := 0, holds := ∅ } } with
        | (.error e, l) => (.error e, l)
        | (.ok (), l) => (.ok seats.values, l)

/-- Adds a category with a pool. -/
def addStanding (l : MemoryLedger) (category : Category) : Result Unit × MemoryLedger :=
  if category.layout ≠ .standing ∨ category.tracking ≠ .flexible then
    (refuse (.notStandingFlexible category.id), l)
  else if category.total < category.available then
    (refuse (.overfull category.id category.available category.total), l)
  else
    l.addSection
      { category, seats := ∅, pool := { available := category.available, holds := ∅ } }

end MemoryLedger

end BoxOffice
