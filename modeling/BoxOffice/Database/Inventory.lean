import BoxOffice.Database.Session
import BoxOffice.Text.Blank

/-!
# The ledger in the database

Answers the calls to the ledger with statements. A change of a seat is one statement; a change of a
pool touches the counter and the record of the hold, and is one transaction.
-/

namespace BoxOffice.DatabaseLedger

open Database

/-- A row that a statement gives, and what it stands for. -/
def lookUp {ρ α : Type} (s : Statement) (read : SqlRow → Except SqlFailure ρ)
    (meaning : ρ → Result α) : Service DatabaseWorld (Option α) := do
  match ← fetchOptional s read with
  | none => return none
  | some row => some <$> interpret (meaning row)

/-- Looks up a category. -/
def category (id : CategoryId) : Service DatabaseWorld (Option Category) :=
  lookUp (.selectCategory id) CategoryRow.ofRow CategoryRow.read

/-- Looks up a stock hold. -/
def stockHold (category : CategoryId) (hold : HoldId) : Service DatabaseWorld (Option StockHold) :=
  lookUp (.selectHold category hold) HoldRow.ofRow HoldRow.read

/-- A statement that changes one row changed it. -/
def changesOne (s : Statement) : Service DatabaseWorld Bool := do
  return (← execute s) = 1

/-- What a transaction that takes a place found. -/
inductive Take
  /-- The identifier has a hold that stays as it is. -/
  | kept (hold : StockHold)
  /-- A hold was renewed or made. -/
  | written (row : HoldRow)
  | soldOut
  /-- Another taker of the same identifier was first. -/
  | lost

/-- Takes a place from the counter and records a hold for it. -/
def takeFresh (category : CategoryId) (hold : HoldId) (expiresAt : Instant) :
    Service DatabaseWorld (Ending × Take) := do
  match ← fetchOptional (.takePlace category) fun row => row.column (α := Int32) 0 with
  | none => return (.rollback, .soldOut)
  | some _ =>
    match ← fetchOptional (.insertHold category hold expiresAt) HoldRow.ofRow with
    | none => return (.rollback, .lost)
    | some row => return (.commit, .written row)

/-- Takes a place for a hold, inside a transaction. -/
def takeInside (category : CategoryId) (hold : HoldId) (now expiresAt : Instant) :
    Service DatabaseWorld (Ending × Take) := do
  match ← fetchOptional (.findCategory category) fun row => row.column (α := Int32) 0 with
  | none => throw (Cause.categoryMissing category).error
  | some _ =>
    match ← lookUp (.lockHold category hold) HoldRow.ofRow HoldRow.read with
    | none => takeFresh category hold expiresAt
    | some existing =>
      match existing.state with
      | .confirmed => return (.commit, .kept existing)
      | .held =>
        if now ≤ existing.expiresAt then return (.commit, .kept existing)
        else
          let row ← fetchOne (.renewHold category hold expiresAt) HoldRow.ofRow
          return (.commit, .written row)
      | .released | .expired => takeFresh category hold expiresAt

/-- Takes a place for a hold. If another taker of the same identifier was first, its hold is the
answer. -/
def takeStock (category : CategoryId) (hold : HoldId) (now expiresAt : Instant) :
    Service DatabaseWorld StockOutcome := do
  match ← transaction (takeInside category hold now expiresAt) with
  | .kept existing => return .existing existing
  | .written row => return .taken (← interpret row.read)
  | .soldOut => return .soldOut
  | .lost =>
    Surroundings.note .concurrentTake
    match ← stockHold category hold with
    | some winner => return .existing winner
    | none => throw (Cause.holdVanished hold).error

/-- Gives back a held place. -/
def returnStock (category : CategoryId) (hold : HoldId) : Service DatabaseWorld Bool :=
  transaction do
    if (← execute (.releaseHold category hold)) = 0 then return (.rollback, false)
    let _ ← execute (.returnPlace category)
    return (.commit, true)

/-- Gives back every lapsed hold. -/
def reclaim (now : Instant) : Service DatabaseWorld SweepReport := do
  let seats ← execute (.freeLapsedSeats now)
  let counts ← fetchAll (.expireLapsedHolds now) fun row => row.column (α := Int32) 0
  return {
    seats := UInt64.ofNat seats
    stock := UInt64.ofNat (counts.foldl (fun total n => total + n.toInt.toNat) 0) }

/-- The counts of sold and reserved seats. -/
def readSeatCounts (row : SqlRow) : Except SqlFailure (Int64 × Int64) :=
  return (← row.column 0, ← row.column 1)

/-- The counts of sold, live and lapsed holds. -/
def readHoldCounts (row : SqlRow) : Except SqlFailure (Int64 × Int64 × Int64) :=
  return (← row.column 0, ← row.column 1, ← row.column 2)

/-- A snapshot of a category. -/
def availability (id : CategoryId) (now : Instant) :
    Service DatabaseWorld (Option Availability) := do
  match ← category id with
  | none => return none
  | some c =>
    match c.layout with
    | .seated =>
      let (sold, reserved) ← fetchOne (.countSeats id now) readSeatCounts
      let sold ← interpret (countOf "sold" sold.toInt)
      let reserved ← interpret (countOf "reserved" reserved.toInt)
      let taken := sold + reserved
      return some {
        total := c.total
        available := if taken ≤ c.total then c.total - taken else 0
        reserved
        sold }
    | .standing =>
      let (sold, reserved, lapsed) ← fetchOne (.countHolds id now) readHoldCounts
      let lapsed ← interpret (countOf "lapsed" lapsed.toInt)
      let reserved ← interpret (countOf "reserved" reserved.toInt)
      let sold ← interpret (countOf "sold" sold.toInt)
      return some { total := c.total, available := c.available + lapsed, reserved, sold }

/-- Answers a call to the ledger. -/
def answer : (c : Ledger.Call) → Program DatabaseWorld (Result c.Answer)
  | .category id => (category id).run
  | .seat category label =>
    (lookUp (.selectSeat category label) SeatRow.ofRow SeatRow.read).run
  | .reserveSeat claim => (lookUp (.reserveSeat claim) SeatRow.ofRow SeatRow.read).run
  | .releaseSeat category label hold => (changesOne (.releaseSeat category label hold)).run
  | .sellSeat category label hold now => (changesOne (.sellSeat category label hold now)).run
  | .takeStock category hold now expiresAt => (takeStock category hold now expiresAt).run
  | .stockHold category hold => (stockHold category hold).run
  | .returnStock category hold => (returnStock category hold).run
  | .settleStock category hold now => (changesOne (.settleHold category hold now)).run
  | .reclaim now => (reclaim now).run
  | .availability category now => (availability category now).run

/-- A category in order to be stored, with its capacity taken from its seats if it has any. -/
def checkProvision (c : Category) (labels : List String) : Result Category :=
  match c.layout, c.tracking with
  | .seated, .fixed =>
    if labels.any Text.isBlank then refuse .blankSeatLabel
    else if UInt32.size ≤ labels.length then refuse .tooManySeats
    else .ok { c with total := .ofNat labels.length, available := .ofNat labels.length }
  | .standing, .flexible =>
    if labels.isEmpty then .ok c else refuse (.seatLabelsRefused c.id)
  | layout, tracking => refuse (.mismatchedKinds c.id layout tracking)

/-- A category whose numbers fit the columns. -/
def checkColumns (c : Category) : Result CategoryRow := do
  if 2147483647 < c.total then refuse .capacityOutOfRange
  if 2147483647 < c.available then refuse .availableOutOfRange
  if 9223372036854775807 < c.price.cents then refuse .priceOutOfRange
  return CategoryRow.write c

/-- Stores a category with one available seat for each label. -/
def provision (c : Category) (labels : List String) : Service DatabaseWorld Category := do
  let c ← interpret (checkProvision c labels)
  let row ← interpret (checkColumns c)
  transaction do
    let _ ← execute (.insertCategory row)
    if !labels.isEmpty then
      let _ ← execute (.insertSeats c.id labels)
    return (.commit, ())
  Surroundings.note .categoryProvisioned
  return c

end BoxOffice.DatabaseLedger
