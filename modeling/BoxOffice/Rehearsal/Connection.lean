import BoxOffice.Service.Launch
import BoxOffice.Text.Blank

/-!
# Scripted databases

A database that answers with the replies of a list, whatever it is told, and keeps what it was told.
The statements around transactions and migrations succeed without a reply, unless a failure of
theirs is next in the list. A rehearsal has two of them; each side of the service talks to one.
-/

namespace BoxOffice.Rehearsal

/-- A reply laid out for a statement. -/
inductive ScriptedReply
  | answer (answer : SqlAnswer)
  | failure (failure : SqlFailure)
  /-- A failure of the statement with this text. -/
  | failureOf (text : String) (failure : SqlFailure)

/-- A scripted database and the connections to it. -/
structure Connection where
  replies : List ScriptedReply
  /-- What was sent, the last statement first. -/
  sent : List Statement
  /-- The connections are closed: nothing is sent any more. -/
  closed : Bool
  /-- The migrations on record. -/
  records : List AppliedMigration
  /-- Why nobody is let in, if nobody is. -/
  refusal : Option SqlFailure

namespace Connection

/-- A connection to a database that answers with some replies. -/
def start (replies : List ScriptedReply) : Connection where
  replies
  sent := []
  closed := false
  records := []
  refusal := none

/-- The failure when no reply is left. -/
def exhausted : SqlFailure :=
  .database "XX000" "script exhausted"

/-- A statement that needs no reply. -/
def needsNoReply : Statement → Bool
  | .begin | .commit | .rollback | .migrate _ | .recordMigration _ _ _ => true
  | _ => false

/-- A failure of a statement with some text is meant for this statement. -/
def isMeant (text : String) : Statement → Bool
  | .recordMigration _ _ _ => false
  | s => Text.collapse s.text == Text.collapse text

/-- Answers a statement with the next reply. -/
def reply (c : Connection) (s : Statement) : Except SqlFailure SqlAnswer × Connection :=
  match c.replies with
  | .failureOf text failure :: rest =>
    if needsNoReply s then
      if isMeant text s then (.error failure, { c with replies := rest })
      else (.ok (.ofAffected 0), c)
    else (.error exhausted, { c with replies := rest })
  | .answer answer :: rest =>
    if needsNoReply s then (.ok (.ofAffected 0), c) else (.ok answer, { c with replies := rest })
  | .failure failure :: rest =>
    if needsNoReply s then (.ok (.ofAffected 0), c)
    else (.error failure, { c with replies := rest })
  | [] => if needsNoReply s then (.ok (.ofAffected 0), c) else (.error exhausted, c)

/-- Sends a statement and answers it. -/
def answer (c : Connection) (s : Statement) : Except SqlFailure SqlAnswer × Connection :=
  if c.closed then (.error .poolClosed, c)
  else { c with sent := s :: c.sent }.reply s

/-- What was sent, in order, and the database with nothing sent. -/
def takeSent (c : Connection) : List Statement × Connection :=
  (c.sent.reverse, { c with sent := [] })

end Connection

/-- The databases of a rehearsal. -/
structure Databases where
  inventory : Connection
  booking : Connection
  /-- The addresses at which they are reached. -/
  hosts : List (String × Side)
  /-- The database that each side of the service talks to. -/
  inventoryAt : Side
  bookingAt : Side

namespace Databases

/-- One database for both sides. -/
def single (c : Connection) : Databases where
  inventory := c
  booking := .start []
  hosts := []
  inventoryAt := .inventory
  bookingAt := .inventory

/-- The database that a side talks to. -/
def place (d : Databases) : Side → Side
  | .inventory => d.inventoryAt
  | .booking => d.bookingAt

/-- One of the two databases. -/
def host (d : Databases) : Side → Connection
  | .inventory => d.inventory
  | .booking => d.booking

/-- The databases with one of them changed. -/
def set (d : Databases) (c : Connection) : Side → Databases
  | .inventory => { d with inventory := c }
  | .booking => { d with booking := c }

/-- Opens the connections of a side: its address has to be known, and somebody let in. -/
def connect (d : Databases) (side : Side) (settings : DatabaseConfig) :
    Except SqlFailure Databases :=
  match d.hosts.find? fun host => host.1 == settings.url with
  | none => .error (.protocol settings.url)
  | some (_, place) =>
    if settings.maxConnections = 0 ∨ settings.connectTimeout = 0 then .error .poolTimedOut
    else match (d.host place).refusal with
      | some failure => .error failure
      | none => .ok (match side with
        | .inventory => { d with inventoryAt := place }
        | .booking => { d with bookingAt := place })

/-- Sends a statement of a side. -/
def answer (d : Databases) (side : Side) (s : Statement) :
    Except SqlFailure SqlAnswer × Databases :=
  let (reply, c) := (d.host (d.place side)).answer s
  (reply, d.set c (d.place side))

end Databases

/-- A statement with its arguments as they arrive. The identifier of a new booking is random, and
is shown as such. -/
def showStatement (s : Statement) : Json :=
  let arguments := s.arguments.map fun v => v.sent.toJson
  let shown := match s, arguments with
    | .insertBooking _, _ :: rest => .text "<new>" :: rest
    | _, arguments => arguments
  .list [.text (Text.collapse s.text), .list shown]

/-- The short names of lists of columns. -/
def columnsOfName? : String → Option (List (String × SqlType))
  | "category" => some [("id", .int4), ("event_id", .int4), ("name", .text), ("kind", .text),
      ("booking_kind", .text), ("price_cents", .int8), ("total", .int4), ("available", .int4)]
  | "seat" => some [("id", .int4), ("category_id", .int4), ("seat_label", .text),
      ("status", .text), ("reserved_until", .timestamptz), ("hold_id", .uuid)]
  | "hold" => some [("hold_id", .uuid), ("category_id", .int4), ("state", .text),
      ("expires_at", .timestamptz)]
  | "booking" => some [("id", .uuid), ("attempt_id", .uuid), ("event_id", .int4),
      ("category_id", .int4), ("ticket_id", .int4), ("seat_label", .text), ("user_id", .int4),
      ("status", .text), ("hold_expires_at", .timestamptz), ("created_at", .timestamptz),
      ("updated_at", .timestamptz)]
  | _ => none

/-- A column from its name and type with a colon between them. -/
def columnOfText? (text : String) : Option (String × SqlType) :=
  let cs := text.toList.reverse
  let typeName := (cs.takeWhile (· ≠ ':')).reverse
  match cs.dropWhile (· ≠ ':') with
  | _ :: name =>
    (SqlType.ofName? (String.ofList typeName)).map fun t => (String.ofList name.reverse, t)
  | [] => none

/-- The columns of a reply. -/
def columns? : Json → Option (List (String × SqlType))
  | .text name => columnsOfName? name
  | .list columns => columns.mapM fun c => c.text?.bind columnOfText?
  | _ => none

/-- A row of a reply. -/
def row? (columns : List (String × SqlType)) : Json → Option (List SqlValue)
  | .list cells =>
    if cells.length = columns.length then
      (columns.zip cells).mapM fun (column, cell) => SqlValue.ofJson? column.2 cell
    else none
  | _ => none

/-- The failure that a reply describes. -/
def failure? (j : Json) : Option SqlFailure := do
  return .database (← (j.get "code").text?) (← (j.get "message").text?)

/-- The reply that a member of a list describes. -/
def ScriptedReply.ofJson? (j : Json) : Option ScriptedReply :=
  match j.get "simple", j.get "error", j.get "cols", j.get "affected" with
  | .text text, error, _, _ => (failure? error).map (.failureOf text)
  | .null, .null, .null, affected =>
    (decode affected).map fun (n : UInt64) => .answer (.ofAffected n.toNat)
  | .null, .null, cols, _ => do
    let columns ← columns? cols
    match j.get "rows" with
    | .list rows => return .answer (.ofRows columns (← rows.mapM (row? columns)))
    | _ => none
  | .null, error, _, _ => (failure? error).map .failure
  | _, _, _, _ => none

end BoxOffice.Rehearsal
