import BoxOffice.Database.Statement
import Mathlib.Data.List.Dedup

/-!
# What the statements mean

The tables of the inventory as lists of rows, and each statement about them as it reads: the rows that
its condition picks are changed or counted, `NULL` fulfils no comparison, and what would break a
constraint of a table, or does not fit a column, is refused. `Tables.run` follows one statement. Times
are kept as they are; the numbers of new tickets are the database's own choice.
-/

namespace BoxOffice

/-! ### Rows -/

namespace CategoryRow

/-- The columns of a row. -/
def columns : List (String × SqlType) :=
  [("id", .int4), ("event_id", .int4), ("name", .text), ("kind", .text), ("booking_kind", .text),
    ("price_cents", .int8), ("total", .int4), ("available", .int4)]

/-- The values in the columns. -/
def values (row : CategoryRow) : List SqlValue :=
  [.integer row.id.toInt, .integer row.event.toInt, .text row.name, .text row.kind,
    .text row.bookingKind, .integer row.priceCents.toInt, .integer row.total.toInt,
    .integer row.available.toInt]

/-- The row is as the table wants its rows. -/
structure Checks (row : CategoryRow) : Prop where
  price : 0 ≤ row.priceCents.toInt
  total : 0 ≤ row.total.toInt
  available : 0 ≤ row.available.toInt ∧ row.available.toInt ≤ row.total.toInt
  kinds : row.kind = "SEATED" ∧ row.bookingKind = "FIXED" ∨
    row.kind = "STANDING" ∧ row.bookingKind = "FLEXIBLE"

instance (row : CategoryRow) : Decidable row.Checks :=
  decidable_of_iff (0 ≤ row.priceCents.toInt ∧ 0 ≤ row.total.toInt ∧
      (0 ≤ row.available.toInt ∧ row.available.toInt ≤ row.total.toInt) ∧
      (row.kind = "SEATED" ∧ row.bookingKind = "FIXED" ∨
        row.kind = "STANDING" ∧ row.bookingKind = "FLEXIBLE"))
    ⟨fun ⟨price, total, available, kinds⟩ => ⟨price, total, available, kinds⟩,
      fun ⟨price, total, available, kinds⟩ => ⟨price, total, available, kinds⟩⟩

end CategoryRow

namespace SeatRow

/-- The columns of a row. -/
def columns : List (String × SqlType) :=
  [("id", .int4), ("category_id", .int4), ("seat_label", .text), ("status", .text),
    ("reserved_until", .timestamptz), ("hold_id", .uuid)]

/-- The values in the columns. -/
def values (row : SeatRow) : List SqlValue :=
  [.integer row.id.toInt, .integer row.category.toInt, .text row.label, .text row.status,
    .ofOption .timestamp row.reservedUntil, .ofOption .uuid row.hold]

/-- What tells the seats apart. -/
def key (row : SeatRow) : Int32 × String :=
  (row.category, row.label)

/-- The row is as the table wants its rows. -/
def Checks (row : SeatRow) : Prop :=
  row.status ∈ ["AVAILABLE", "RESERVED", "SOLD"] ∧
    (row.status = "RESERVED" → row.reservedUntil.isSome ∧ row.hold.isSome)

instance (row : SeatRow) : Decidable row.Checks :=
  inferInstanceAs (Decidable (_ ∧ _))

end SeatRow

namespace HoldRow

/-- The columns of a row. -/
def columns : List (String × SqlType) :=
  [("hold_id", .uuid), ("category_id", .int4), ("state", .text), ("expires_at", .timestamptz)]

/-- The values in the columns. -/
def values (row : HoldRow) : List SqlValue :=
  [.uuid row.hold, .integer row.category.toInt, .text row.state, .timestamp row.expiresAt]

/-- What tells the holds apart. -/
def key (row : HoldRow) : Int32 × Uuid :=
  (row.category, row.hold)

/-- The row is as the table wants its rows. -/
def Checks (row : HoldRow) : Prop :=
  row.state ∈ ["HELD", "CONFIRMED", "RELEASED", "EXPIRED"]

instance (row : HoldRow) : Decidable row.Checks :=
  inferInstanceAs (Decidable (_ ∈ _))

end HoldRow

/-! ### Tables -/

/-- The tables of the inventory. -/
structure Tables where
  categories : List CategoryRow
  seats : List SeatRow
  holds : List HoldRow

namespace Tables

/-- Tables without rows. -/
def empty : Tables where
  categories := []
  seats := []
  holds := []

/-- A failure with one of the codes of the database. -/
def failure (code : String) : SqlFailure :=
  .database code ""

/-- The tables with other categories. -/
def putCategories (t : Tables) (rows : List CategoryRow) : Except SqlFailure Tables :=
  if ¬ ∀ row ∈ rows, row.Checks then .error (failure "23514")
  else if ¬ (rows.map CategoryRow.id).Nodup then .error (failure "23505")
  else .ok { t with categories := rows }

/-- The tables with other seats. -/
def putSeats (t : Tables) (rows : List SeatRow) : Except SqlFailure Tables :=
  if ¬ ∀ row ∈ rows, row.Checks then .error (failure "23514")
  else if ¬ (rows.map SeatRow.key).Nodup then .error (failure "23505")
  else if ¬ ∀ row ∈ rows, row.category ∈ t.categories.map CategoryRow.id then
    .error (failure "23503")
  else .ok { t with seats := rows }

/-- The tables with other holds. -/
def putHolds (t : Tables) (rows : List HoldRow) : Except SqlFailure Tables :=
  if ¬ ∀ row ∈ rows, row.Checks then .error (failure "23514")
  else if ¬ (rows.map HoldRow.key).Nodup then .error (failure "23505")
  else if ¬ ∀ row ∈ rows, row.category ∈ t.categories.map CategoryRow.id then
    .error (failure "23503")
  else .ok { t with holds := rows }

/-- The rows after those that a condition picks were changed. -/
def update {ρ : Type} (rows : List ρ) (picks : ρ → Bool) (change : ρ → ρ) : List ρ :=
  rows.map fun row => if picks row then change row else row

/-- The rows that a condition picks, as they are after they were changed. -/
def updated {ρ : Type} (rows : List ρ) (picks : ρ → Bool) (change : ρ → ρ) : List ρ :=
  (rows.filter picks).map change

/-- The answer with some categories. -/
def ofCategories (rows : List CategoryRow) : SqlAnswer :=
  .ofRows CategoryRow.columns (rows.map CategoryRow.values)

/-- The answer with some seats. -/
def ofSeats (rows : List SeatRow) : SqlAnswer :=
  .ofRows SeatRow.columns (rows.map SeatRow.values)

/-- The answer with some holds. -/
def ofHolds (rows : List HoldRow) : SqlAnswer :=
  .ofRows HoldRow.columns (rows.map HoldRow.values)

/-- The answer with some whole numbers in one column. -/
def ofIntegers (name : String) (type : SqlType) (numbers : List Int) : SqlAnswer :=
  .ofRows [(name, type)] (numbers.map fun n => [.integer n])

/-- The answer with some counts side by side. -/
def ofCounts (counts : List Nat) : SqlAnswer :=
  .ofRows (counts.map fun _ => ("count", .int8)) [counts.map fun n => .integer n]

/-- Changes the seats that a condition picks, and answers with what is made of them. -/
def changeSeats (t : Tables) (picks : SeatRow → Bool) (change : SeatRow → SeatRow) :
    Except SqlFailure (List SeatRow × Tables) := do
  let t' ← t.putSeats (update t.seats picks change)
  return (updated t.seats picks change, t')

/-- Changes the holds that a condition picks, and answers with what is made of them. -/
def changeHolds (t : Tables) (picks : HoldRow → Bool) (change : HoldRow → HoldRow) :
    Except SqlFailure (List HoldRow × Tables) := do
  let t' ← t.putHolds (update t.holds picks change)
  return (updated t.holds picks change, t')

/-- Adds places to categories, never beyond the capacity: how many to which, if any. A sum that does
not fit the column is refused. -/
def addPlaces (t : Tables) (places : CategoryRow → Option Nat) : Except SqlFailure Tables :=
  if ∃ row ∈ t.categories, ∃ n ∈ places row, 2147483647 < row.available.toInt + n then
    .error (failure "22003")
  else
    t.putCategories (t.categories.map fun row =>
      match places row with
      | none => row
      | some n =>
        { row with available := .ofInt (min (row.available.toInt + n) row.total.toInt) })

/-- How many rows there are for each category that has any. -/
def counts (rows : List HoldRow) : List (Int32 × Nat) :=
  (rows.map HoldRow.category).dedup.map fun id => (id, rows.countP fun row => row.category = id)

/-- The count for a category. -/
def countFor (groups : List (Int32 × Nat)) (row : CategoryRow) : Option Nat :=
  (groups.find? fun group => group.1 = row.id).map Prod.snd

/-- New seats for labels, with numbers of the database's choice. -/
def newSeats (number : Tables → Nat → Int32) (t : Tables) (category : CategoryId)
    (labels : List String) : List SeatRow :=
  labels.mapIdx fun place label =>
    { id := number t place, category := category.value, label, status := "AVAILABLE",
      reservedUntil := none, hold := none }

section Conditions

/-- The row is that of the seat with a label. -/
def isSeat (category : CategoryId) (label : String) (row : SeatRow) : Bool :=
  row.category = category.value ∧ row.label = label

/-- The row is that of a hold in a category. -/
def isHold (category : CategoryId) (hold : HoldId) (row : HoldRow) : Bool :=
  row.category = category.value ∧ row.hold = hold.value

/-- The seat is reserved until an instant before another. -/
def seatLapsed (now : Instant) (row : SeatRow) : Bool :=
  row.status = "RESERVED" ∧ row.reservedUntil.any (· < now)

/-- The seat is reserved until another instant or longer. -/
def seatLive (now : Instant) (row : SeatRow) : Bool :=
  row.status = "RESERVED" ∧ row.reservedUntil.any (now ≤ ·)

/-- The place is held until an instant before another. -/
def holdLapsed (now : Instant) (row : HoldRow) : Bool :=
  row.state = "HELD" ∧ row.expiresAt < now

/-- The place is held until another instant or longer. -/
def holdLive (now : Instant) (row : HoldRow) : Bool :=
  row.state = "HELD" ∧ now ≤ row.expiresAt

end Conditions

/-- What a statement answers, and the tables that it leaves behind. The inventory has no tables but
these. -/
def run (number : Tables → Nat → Int32) (t : Tables) :
    Statement → Except SqlFailure (SqlAnswer × Tables)
  | .selectCategory id => .ok (ofCategories (t.categories.filter fun row => row.id = id.value), t)
  | .findCategory id =>
    .ok (ofIntegers "id" .int4
      ((t.categories.filter fun row => row.id = id.value).map fun row => row.id.toInt), t)
  | .selectSeat category label => .ok (ofSeats (t.seats.filter (isSeat category label)), t)
  | .selectHold category hold | .lockHold category hold =>
    .ok (ofHolds (t.holds.filter (isHold category hold)), t)
  | .reserveSeat claim => do
    let (rows, t) ← t.changeSeats
      (fun row => isSeat claim.category claim.label row ∧
        (row.status = "AVAILABLE" ∨ seatLapsed claim.now row))
      fun row => { row with
        status := "RESERVED", reservedUntil := some claim.expiresAt, hold := some claim.hold.value }
    return (ofSeats rows, t)
  | .releaseSeat category label hold => do
    let (rows, t) ← t.changeSeats
      (fun row => isSeat category label row ∧ row.status = "RESERVED" ∧ row.hold = some hold.value)
      fun row => { row with status := "AVAILABLE", reservedUntil := none, hold := none }
    return (.ofAffected rows.length, t)
  | .sellSeat category label hold now => do
    let (rows, t) ← t.changeSeats
      (fun row => isSeat category label row ∧ row.hold = some hold.value ∧ seatLive now row)
      fun row => { row with status := "SOLD", reservedUntil := none }
    return (.ofAffected rows.length, t)
  | .freeLapsedSeats now => do
    let (rows, t) ← t.changeSeats (seatLapsed now)
      fun row => { row with status := "AVAILABLE", reservedUntil := none, hold := none }
    return (.ofAffected rows.length, t)
  | .renewHold category hold expiresAt => do
    let (rows, t) ← t.changeHolds (fun row => isHold category hold row ∧ row.state = "HELD")
      fun row => { row with expiresAt }
    return (ofHolds rows, t)
  | .takePlace category => do
    let picks (row : CategoryRow) : Bool := row.id = category.value ∧ 0 < row.available.toInt
    let change (row : CategoryRow) : CategoryRow :=
      { row with available := .ofInt (row.available.toInt - 1) }
    let t' ← t.putCategories (update t.categories picks change)
    return (ofIntegers "available" .int4
      ((updated t.categories picks change).map fun row => row.available.toInt), t')
  | .insertHold category hold expiresAt => do
    let row : HoldRow := { hold := hold.value, category := category.value, state := "HELD", expiresAt }
    if t.holds.any (isHold category hold) then
      let (rows, t) ← t.changeHolds
        (fun row => isHold category hold row ∧ row.state ∈ ["RELEASED", "EXPIRED"])
        fun row => { row with state := "HELD", expiresAt }
      return (ofHolds rows, t)
    else
      let t ← t.putHolds (t.holds ++ [row])
      return (ofHolds [row], t)
  | .releaseHold category hold => do
    let (rows, t) ← t.changeHolds (fun row => isHold category hold row ∧ row.state = "HELD")
      fun row => { row with state := "RELEASED" }
    return (.ofAffected rows.length, t)
  | .returnPlace category => do
    let t ← t.addPlaces fun row => if row.id = category.value then some 1 else none
    return (.ofAffected (t.categories.countP fun row => row.id = category.value), t)
  | .settleHold category hold now => do
    let (rows, t) ← t.changeHolds (fun row => isHold category hold row ∧ holdLive now row)
      fun row => { row with state := "CONFIRMED" }
    return (.ofAffected rows.length, t)
  | .expireLapsedHolds now => do
    let groups := counts (t.holds.filter (holdLapsed now))
    if ∃ group ∈ groups, 2147483647 < group.2 then throw (failure "22003")
    let (_, t) ← t.changeHolds (holdLapsed now) fun row => { row with state := "EXPIRED" }
    let t ← t.addPlaces (countFor groups)
    return (ofIntegers "n" .int4 ((t.categories.filterMap (countFor groups)).map Int.ofNat), t)
  | .countSeats category now =>
    let rows := t.seats.filter fun row => row.category = category.value
    .ok (ofCounts [rows.countP fun row => row.status = "SOLD", rows.countP (seatLive now)], t)
  | .countHolds category now =>
    let rows := t.holds.filter fun row => row.category = category.value
    .ok (ofCounts [rows.countP fun row => row.state = "CONFIRMED", rows.countP (holdLive now),
      rows.countP (holdLapsed now)], t)
  | .insertCategory row => do
    let t ← t.putCategories (t.categories ++ [row])
    return (.ofAffected 1, t)
  | .insertSeats category labels => do
    let rows := newSeats number t category labels
    let t ← t.putSeats (t.seats ++ rows)
    return (.ofAffected rows.length, t)
  | _ => .error (failure "42P01")

end Tables

end BoxOffice
