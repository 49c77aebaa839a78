import BoxOffice.Database.Failure
import BoxOffice.Database.Row
import BoxOffice.Ledger.Interface
import BoxOffice.Program.Basic

/-!
# Statements

Everything that is said to the database, each statement with its text and its arguments. Every
change is conditional: the state that is expected stands in the statement itself, so that the
database's row locks decide races.
-/

namespace BoxOffice

/-- A statement. -/
inductive Statement
  | begin
  | commit
  | rollback
  | selectCategory (id : CategoryId)
  | selectSeat (category : CategoryId) (label : String)
  | reserveSeat (claim : SeatClaim)
  | releaseSeat (category : CategoryId) (label : String) (hold : HoldId)
  | sellSeat (category : CategoryId) (label : String) (hold : HoldId) (now : Instant)
  | findCategory (id : CategoryId)
  | selectHold (category : CategoryId) (hold : HoldId)
  | lockHold (category : CategoryId) (hold : HoldId)
  | renewHold (category : CategoryId) (hold : HoldId) (expiresAt : Instant)
  | takePlace (category : CategoryId)
  | insertHold (category : CategoryId) (hold : HoldId) (expiresAt : Instant)
  | releaseHold (category : CategoryId) (hold : HoldId)
  | returnPlace (category : CategoryId)
  | settleHold (category : CategoryId) (hold : HoldId) (now : Instant)
  | freeLapsedSeats (now : Instant)
  | expireLapsedHolds (now : Instant)
  | countSeats (category : CategoryId) (now : Instant)
  | countHolds (category : CategoryId) (now : Instant)
  | insertCategory (row : CategoryRow)
  | insertSeats (category : CategoryId) (labels : List String)
  | insertBooking (row : BookingRow)
  | selectBooking (id : BookingId)
  | selectBookingOfAttempt (attempt : HoldId)
  | transitionBooking (id : BookingId) (expected target : BookingStatus) (now : Instant)
  /-- A step of a migration: its own text. -/
  | migrate (text : String)
  /-- The record that a migration was made. -/
  | recordMigration (version : Nat) (description checksum : String)

namespace Statement

/-- The columns of a category. -/
def categoryColumns : String :=
  "id, event_id, name, kind, booking_kind, price_cents, total, available"

/-- The columns of a seat. -/
def seatColumns : String :=
  "id, category_id, seat_label, status, reserved_until, hold_id"

/-- The columns of a stock hold. -/
def holdColumns : String :=
  "hold_id, category_id, state, expires_at"

/-- The columns of a booking. -/
def bookingColumns : String :=
  "id, attempt_id, event_id, category_id, ticket_id, seat_label, user_id, status, " ++
    "hold_expires_at, created_at, updated_at"

/-- The text of a statement, on one line. -/
def text : Statement → String
  | begin => "BEGIN"
  | commit => "COMMIT"
  | rollback => "ROLLBACK"
  | selectCategory _ => "SELECT " ++ categoryColumns ++ " FROM event_categories WHERE id = $1"
  | selectSeat _ _ =>
    "SELECT " ++ seatColumns ++ " FROM tickets WHERE category_id = $1 AND seat_label = $2"
  | reserveSeat _ =>
    "UPDATE tickets SET status = 'RESERVED', reserved_until = $4, hold_id = $3 " ++
      "WHERE category_id = $1 AND seat_label = $2 AND (status = 'AVAILABLE' " ++
      "OR (status = 'RESERVED' AND reserved_until < $5)) RETURNING " ++ seatColumns
  | releaseSeat _ _ _ =>
    "UPDATE tickets SET status = 'AVAILABLE', reserved_until = NULL, hold_id = NULL " ++
      "WHERE category_id = $1 AND seat_label = $2 AND status = 'RESERVED' AND hold_id = $3"
  | sellSeat _ _ _ _ =>
    "UPDATE tickets SET status = 'SOLD', reserved_until = NULL " ++
      "WHERE category_id = $1 AND seat_label = $2 AND status = 'RESERVED' AND hold_id = $3 " ++
      "AND reserved_until >= $4"
  | findCategory _ => "SELECT id FROM event_categories WHERE id = $1"
  | selectHold _ _ =>
    "SELECT " ++ holdColumns ++ " FROM stock_holds WHERE category_id = $1 AND hold_id = $2"
  | lockHold _ _ =>
    "SELECT " ++ holdColumns ++
      " FROM stock_holds WHERE category_id = $1 AND hold_id = $2 FOR UPDATE"
  | renewHold _ _ _ =>
    "UPDATE stock_holds SET expires_at = $3, updated_at = now() " ++
      "WHERE category_id = $1 AND hold_id = $2 AND state = 'HELD' RETURNING " ++ holdColumns
  | takePlace _ =>
    "UPDATE event_categories SET available = available - 1 WHERE id = $1 AND available > 0 " ++
      "RETURNING available"
  | insertHold _ _ _ =>
    "INSERT INTO stock_holds (category_id, hold_id, state, expires_at) " ++
      "VALUES ($1, $2, 'HELD', $3) ON CONFLICT (category_id, hold_id) DO UPDATE " ++
      "SET state = 'HELD', expires_at = EXCLUDED.expires_at, updated_at = now() " ++
      "WHERE stock_holds.state IN ('RELEASED', 'EXPIRED') RETURNING " ++ holdColumns
  | releaseHold _ _ =>
    "UPDATE stock_holds SET state = 'RELEASED', updated_at = now() " ++
      "WHERE category_id = $1 AND hold_id = $2 AND state = 'HELD'"
  | returnPlace _ =>
    "UPDATE event_categories SET available = LEAST(available + 1, total) WHERE id = $1"
  | settleHold _ _ _ =>
    "UPDATE stock_holds SET state = 'CONFIRMED', updated_at = now() " ++
      "WHERE category_id = $1 AND hold_id = $2 AND state = 'HELD' AND expires_at >= $3"
  | freeLapsedSeats _ =>
    "UPDATE tickets SET status = 'AVAILABLE', reserved_until = NULL, hold_id = NULL " ++
      "WHERE status = 'RESERVED' AND reserved_until < $1"
  | expireLapsedHolds _ =>
    "WITH expired AS ( UPDATE stock_holds SET state = 'EXPIRED', updated_at = now() " ++
      "WHERE state = 'HELD' AND expires_at < $1 RETURNING category_id ), counts AS ( " ++
      "SELECT category_id, COUNT(*)::INTEGER AS n FROM expired GROUP BY category_id ) " ++
      "UPDATE event_categories c SET available = LEAST(c.available + counts.n, c.total) " ++
      "FROM counts WHERE c.id = counts.category_id RETURNING counts.n"
  | countSeats _ _ =>
    "SELECT COUNT(*) FILTER (WHERE status = 'SOLD'), " ++
      "COUNT(*) FILTER (WHERE status = 'RESERVED' AND reserved_until >= $2) " ++
      "FROM tickets WHERE category_id = $1"
  | countHolds _ _ =>
    "SELECT COUNT(*) FILTER (WHERE state = 'CONFIRMED'), " ++
      "COUNT(*) FILTER (WHERE state = 'HELD' AND expires_at >= $2), " ++
      "COUNT(*) FILTER (WHERE state = 'HELD' AND expires_at < $2) " ++
      "FROM stock_holds WHERE category_id = $1"
  | insertCategory _ =>
    "INSERT INTO event_categories (" ++ categoryColumns ++
      ") VALUES ($1, $2, $3, $4, $5, $6, $7, $8)"
  | insertSeats _ _ =>
    "INSERT INTO tickets (category_id, seat_label) " ++
      "SELECT $1, label FROM UNNEST($2::text[]) AS label"
  | insertBooking _ =>
    "INSERT INTO bookings (" ++ bookingColumns ++
      ") VALUES ($1, $2, $3, $4, $5, $6, $7, $8, $9, $10, $10) RETURNING " ++ bookingColumns
  | selectBooking _ => "SELECT " ++ bookingColumns ++ " FROM bookings WHERE id = $1"
  | selectBookingOfAttempt _ =>
    "SELECT " ++ bookingColumns ++ " FROM bookings WHERE attempt_id = $1"
  | transitionBooking _ _ _ _ =>
    "UPDATE bookings SET status = $3, updated_at = $4 WHERE id = $1 AND status = $2 RETURNING " ++
      bookingColumns
  | migrate text => text
  | recordMigration _ _ _ =>
    "INSERT INTO _sqlx_migrations ( version, description, success, checksum, execution_time ) " ++
      "VALUES ( $1, $2, TRUE, $3, -1 )"

/-- The statement begins or ends a transaction. -/
def isBoundary : Statement → Bool
  | begin | commit | rollback => true
  | _ => false

/-- The argument that an identifier of a category is. -/
def categoryArgument (id : CategoryId) : SqlValue :=
  .integer id.value.toInt

/-- The arguments of a statement. -/
def arguments : Statement → List SqlValue
  | begin | commit | rollback | migrate _ => []
  | selectCategory id | findCategory id | takePlace id | returnPlace id => [categoryArgument id]
  | selectSeat category label => [categoryArgument category, .text label]
  | reserveSeat claim =>
    [categoryArgument claim.category, .text claim.label, .uuid claim.hold.value,
      .timestamp claim.expiresAt, .timestamp claim.now]
  | releaseSeat category label hold =>
    [categoryArgument category, .text label, .uuid hold.value]
  | sellSeat category label hold now =>
    [categoryArgument category, .text label, .uuid hold.value, .timestamp now]
  | selectHold category hold | lockHold category hold | releaseHold category hold =>
    [categoryArgument category, .uuid hold.value]
  | renewHold category hold expiresAt | insertHold category hold expiresAt =>
    [categoryArgument category, .uuid hold.value, .timestamp expiresAt]
  | settleHold category hold now =>
    [categoryArgument category, .uuid hold.value, .timestamp now]
  | freeLapsedSeats now | expireLapsedHolds now => [.timestamp now]
  | countSeats category now | countHolds category now =>
    [categoryArgument category, .timestamp now]
  | insertCategory row =>
    [.integer row.id.toInt, .integer row.event.toInt, .text row.name, .text row.kind,
      .text row.bookingKind, .integer row.priceCents.toInt, .integer row.total.toInt,
      .integer row.available.toInt]
  | insertSeats category labels => [categoryArgument category, .texts labels]
  | insertBooking row =>
    [.uuid row.id, .uuid row.attempt, .integer row.event.toInt, .integer row.category.toInt,
      .ofOption (fun id => .integer id.toInt) row.seat, .ofOption .text row.seatLabel,
      .integer row.user.toInt, .text row.status, .timestamp row.holdExpiresAt,
      .timestamp row.createdAt]
  | selectBooking id => [.uuid id.value]
  | selectBookingOfAttempt attempt => [.uuid attempt.value]
  | transitionBooking id expected target now =>
    [.uuid id.value, .text (Labelled.label expected), .text (Labelled.label target),
      .timestamp now]
  | recordMigration version description checksum =>
    [.integer version, .text description, .bytes checksum]

end Statement

/-- What the database answers a statement with: rows, and how many rows were affected. -/
structure SqlAnswer where
  columns : List (String × SqlType)
  rows : List (List SqlValue)
  affected : Nat

namespace SqlAnswer

/-- An answer without rows. -/
def ofAffected (affected : Nat) : SqlAnswer :=
  { columns := [], rows := [], affected }

/-- An answer of rows, each of which counts as affected. -/
def ofRows (columns : List (String × SqlType)) (rows : List (List SqlValue)) : SqlAnswer :=
  { columns, rows, affected := rows.length }

end SqlAnswer

/-- The database. -/
def Sql : Interface where
  Call := Statement
  Reply _ := Except SqlFailure SqlAnswer

end BoxOffice
