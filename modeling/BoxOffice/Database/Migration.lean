import BoxOffice.Database.Statement
import BoxOffice.Digest.Sha384

/-!
# Migrations

A migration brings the tables of a database to the shape that the statements count on. Each is made
once: a record of its version and of the digest of its text stays in the database. A database in
which a migration was begun and not finished, or made with another text, is left alone.
-/

namespace BoxOffice

/-- A change to the tables of a database. -/
structure Migration where
  version : Nat
  description : String
  text : String
  deriving DecidableEq, Repr

/-- The record of a migration in a database. -/
structure AppliedMigration where
  version : Int
  checksum : List UInt8
  /-- The migration was finished. -/
  success : Bool
  deriving DecidableEq, Repr

/-- Why the tables of a database cannot be brought to their shape. -/
inductive MigrationProblem
  /-- A migration was begun and not finished. -/
  | unfinished (version : Int)
  /-- A migration was made with another text. -/
  | altered (version : Nat)
  | failed (failure : SqlFailure)
  deriving DecidableEq, Repr

namespace Migration

/-- The digest of the migration's text. -/
def checksum (m : Migration) : List UInt8 :=
  Digest.sha384 m.text.toUTF8.toList

/-- Lines, each with its end. -/
def textOfLines (lines : List String) : String :=
  String.join (lines.map fun line => line ++ "\n")

/-- The tables of the inventory. -/
def inventory : Migration where
  version := 20250101000001
  description := "inventory"
  text := textOfLines [
    "-- Inventory ledger: categories, seat rows and stock holds.",
    "",
    "CREATE TABLE IF NOT EXISTS event_categories (",
    "    id            SERIAL PRIMARY KEY,",
    "    event_id      INTEGER NOT NULL,",
    "    name          TEXT NOT NULL,",
    "    kind          TEXT NOT NULL CHECK (kind IN ('SEATED', 'STANDING')),",
    "    booking_kind  TEXT NOT NULL CHECK (booking_kind IN ('FIXED', 'FLEXIBLE')),",
    "    price_cents   BIGINT NOT NULL CHECK (price_cents >= 0),",
    "    total         INTEGER NOT NULL CHECK (total >= 0),",
    "    -- Remaining stock; only mutated for FLEXIBLE categories.",
    "    available     INTEGER NOT NULL,",
    "    CHECK (available >= 0 AND available <= total),",
    "    CHECK ((kind = 'SEATED' AND booking_kind = 'FIXED')",
    "        OR (kind = 'STANDING' AND booking_kind = 'FLEXIBLE'))",
    ");",
    "",
    "CREATE INDEX IF NOT EXISTS idx_event_categories_event ON event_categories (event_id);",
    "",
    "CREATE TABLE IF NOT EXISTS tickets (",
    "    id              SERIAL PRIMARY KEY,",
    "    category_id     INTEGER NOT NULL REFERENCES event_categories (id),",
    "    seat_label      TEXT NOT NULL,",
    "    status          TEXT NOT NULL DEFAULT 'AVAILABLE'",
    "                    CHECK (status IN ('AVAILABLE', 'RESERVED', 'SOLD')),",
    "    reserved_until  TIMESTAMPTZ,",
    "    hold_id         UUID,",
    "    UNIQUE (category_id, seat_label),",
    "    CHECK (status <> 'RESERVED' OR (reserved_until IS NOT NULL AND hold_id IS NOT NULL))",
    ");",
    "",
    "CREATE INDEX IF NOT EXISTS idx_tickets_lapsing",
    "    ON tickets (reserved_until) WHERE status = 'RESERVED';",
    "",
    "CREATE TABLE IF NOT EXISTS stock_holds (",
    "    category_id  INTEGER NOT NULL REFERENCES event_categories (id),",
    "    hold_id      UUID NOT NULL,",
    "    state        TEXT NOT NULL CHECK (state IN ('HELD', 'CONFIRMED', 'RELEASED', 'EXPIRED')),",
    "    expires_at   TIMESTAMPTZ NOT NULL,",
    "    created_at   TIMESTAMPTZ NOT NULL DEFAULT now(),",
    "    updated_at   TIMESTAMPTZ NOT NULL DEFAULT now(),",
    "    PRIMARY KEY (category_id, hold_id)",
    ");",
    "",
    "CREATE INDEX IF NOT EXISTS idx_stock_holds_lapsing",
    "    ON stock_holds (expires_at) WHERE state = 'HELD';"]

/-- The table of bookings. -/
def bookings : Migration where
  version := 20250101000002
  description := "bookings"
  text := textOfLines [
    "-- Booking records, owned by the booking front-door.",
    "",
    "CREATE TABLE IF NOT EXISTS bookings (",
    "    id               UUID PRIMARY KEY,",
    "    attempt_id       UUID NOT NULL UNIQUE,",
    "    event_id         INTEGER NOT NULL,",
    "    category_id      INTEGER NOT NULL,",
    "    ticket_id        INTEGER,",
    "    seat_label       TEXT,",
    "    user_id          INTEGER NOT NULL CHECK (user_id > 0),",
    "    status           TEXT NOT NULL CHECK (status IN ('PENDING', 'CONFIRMED', 'CANCELLED')),",
    "    hold_expires_at  TIMESTAMPTZ NOT NULL,",
    "    created_at       TIMESTAMPTZ NOT NULL,",
    "    updated_at       TIMESTAMPTZ NOT NULL",
    ");",
    "",
    "CREATE INDEX IF NOT EXISTS idx_bookings_user ON bookings (user_id);",
    "CREATE INDEX IF NOT EXISTS idx_bookings_pending",
    "    ON bookings (hold_expires_at) WHERE status = 'PENDING';"]

/-- The migration is still to be made, given the records; the last record of a version counts. -/
def isPending (records : List AppliedMigration) (m : Migration) : Except MigrationProblem Bool :=
  match records.reverse.find? fun r => r.version = Int.ofNat m.version with
  | none => .ok true
  | some record =>
    if record.checksum = m.checksum then .ok false else .error (.altered m.version)

end Migration

namespace Schema

/-- The calls of a migration. -/
inductive Call
  /-- The migrations on record. -/
  | records
  | send (statement : Statement)

/-- What each call is answered with. -/
def Call.Reply : Call → Type
  | records => Except SqlFailure (List AppliedMigration)
  | send _ => Except SqlFailure SqlAnswer

end Schema

/-- A database whose tables are to be brought to their shape. -/
def Schema : Interface where
  Call := Schema.Call
  Reply := Schema.Call.Reply

namespace Migration

/-- A program that ends early where a migration fails. -/
abbrev Run (α : Type) : Type :=
  ExceptT MigrationProblem (Program Schema) α

/-- Sends a statement. -/
def send (s : Statement) : Program Schema (Except SqlFailure SqlAnswer) :=
  Program.call (I := Schema) (.send s)

/-- Sends some statements up to the first that fails. -/
def sendAll : List Statement → Program Schema (Except SqlFailure Unit)
  | [] => return .ok ()
  | s :: rest => do
    match ← send s with
    | .ok _ => sendAll rest
    | .error f => return .error f

/-- Makes a migration and its record in one transaction. -/
def make (m : Migration) : Run Unit := do
  match ← ExceptT.lift (send .begin) with
  | .error f => throw (.failed f)
  | .ok _ =>
    let rest := [.migrate m.text,
      .recordMigration m.version m.description (String.ofList (Text.hexBytes m.checksum)), .commit]
    match ← ExceptT.lift (sendAll rest) with
    | .ok () => return ()
    | .error f =>
      let _ ← ExceptT.lift (send .rollback)
      throw (.failed f)

/-- The records of a database in which every migration was finished. -/
def finishedRecords : Run (List AppliedMigration) := do
  match ← ExceptT.lift (Program.call (I := Schema) .records) with
  | .error f => throw (.failed f)
  | .ok (records : List AppliedMigration) =>
    match records.find? fun r => !r.success with
    | some record => throw (.unfinished record.version)
    | none => return records

/-- Makes the migrations that are not on record. -/
def makeAll (migrations : List Migration) : Run Unit := do
  let records ← finishedRecords
  for m in migrations do
    match m.isPending records with
    | .error problem => throw problem
    | .ok true => m.make
    | .ok false => pure ()

end Migration

end BoxOffice
