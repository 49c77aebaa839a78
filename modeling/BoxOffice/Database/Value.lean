import BoxOffice.Time.Timestamp
import BoxOffice.Uuid

/-!
# Database values

The values that are sent to the database and come back from it. The database keeps instants to the
microsecond.
-/

namespace BoxOffice

/-- The types of columns. -/
inductive SqlType
  | bool
  | int4
  | int8
  | text
  | timestamptz
  | uuid
  | bytea
  | void
  deriving DecidableEq, Repr

namespace SqlType

/-- The name of a type in a list of columns. -/
def name : SqlType → String
  | bool => "bool"
  | int4 => "int4"
  | int8 => "int8"
  | text => "text"
  | timestamptz => "timestamptz"
  | uuid => "uuid"
  | bytea => "bytea"
  | void => "void"

/-- The name of a type in messages. -/
def title : SqlType → String
  | bool => "BOOL"
  | int4 => "INT4"
  | int8 => "INT8"
  | text => "TEXT"
  | timestamptz => "TIMESTAMPTZ"
  | uuid => "UUID"
  | bytea => "BYTEA"
  | void => "VOID"

/-- The type with a name. -/
def ofName? (name : String) : Option SqlType :=
  [bool, int4, int8, text, timestamptz, uuid, bytea, void].find? fun t => t.name == name

end SqlType

/-- A value in a row or an argument of a statement. -/
inductive SqlValue
  | null
  | bool (value : Bool)
  | integer (value : Int)
  | text (value : String)
  | timestamp (value : Instant)
  | uuid (value : Uuid)
  | texts (values : List String)
  /-- Bytes as hexadecimal digits, or the empty text of a value without content. -/
  | bytes (digits : String)
  deriving DecidableEq

/-- The instant cut to the microsecond, towards the beginning of the year 2000. A leap second runs on
into the next one. -/
def Instant.toMicros (t : Instant) : Instant :=
  let base : Int := 946684800000000000
  .ofNanos (base + (t.nanos - base).tdiv 1000 * 1000)

namespace SqlValue

/-- A value that may be missing. -/
def ofOption {α : Type} (f : α → SqlValue) : Option α → SqlValue
  | some a => f a
  | none => null

/-- The value as it arrives at the database. -/
def sent : SqlValue → SqlValue
  | timestamp t => timestamp t.toMicros
  | v => v

/-- The value as an argument is shown. -/
def toJson : SqlValue → Json
  | null => .null
  | bool b => .bool b
  | integer n => .ofInt n
  | text s => .text s
  | timestamp t => .text (Timestamp.render t)
  | uuid u => .text u.render
  | texts values => .list (values.map .text)
  | bytes digits => .text digits

/-- The value of a column's type that a member of a row gives. -/
def ofJson? (type : SqlType) (j : Json) : Option SqlValue :=
  match j with
  | .null => some null
  | _ =>
    match type with
    | .bool => (decode j).map bool
    | .int4 => (decode j).map fun (n : Int32) => integer n.toInt
    | .int8 => (decode j).map fun (n : Int64) => integer n.toInt
    | .text => j.text?.map text
    | .timestamptz => (decode j).map fun (t : Instant) => timestamp t.toMicros
    | .uuid => (decode j).map uuid
    | .bytea => j.text?.map bytes
    | .void => j.text?.map bytes

end SqlValue

end BoxOffice
