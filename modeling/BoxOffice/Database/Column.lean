import BoxOffice.Database.Statement

/-!
# Reading rows

The values of a row by the names or numbers of their columns. A column that is not there, has
another type or has no value is a failure; the first one in the order of reading is reported.
-/

namespace BoxOffice

/-- The types that columns are read as. -/
class SqlColumn (α : Type) where
  /-- The name of the type in messages. -/
  typeName : String
  type : SqlType
  ofValue : SqlValue → Option α
  /-- What a column without a value is read as, if anything. -/
  ofNull : Option α := none

instance : SqlColumn Int32 where
  typeName := "i32"
  type := .int4
  ofValue
    | .integer n => some (Int32.ofInt n)
    | _ => none

instance : SqlColumn Int64 where
  typeName := "i64"
  type := .int8
  ofValue
    | .integer n => some (Int64.ofInt n)
    | _ => none

instance : SqlColumn String where
  typeName := "alloc::string::String"
  type := .text
  ofValue
    | .text s => some s
    | _ => none

instance : SqlColumn Instant where
  typeName := "chrono::datetime::DateTime<chrono::offset::utc::Utc>"
  type := .timestamptz
  ofValue
    | .timestamp t => some t
    | _ => none

instance : SqlColumn Uuid where
  typeName := "uuid::Uuid"
  type := .uuid
  ofValue
    | .uuid u => some u
    | _ => none

instance {α : Type} [SqlColumn α] : SqlColumn (Option α) where
  typeName := "core::option::Option<" ++ SqlColumn.typeName α ++ ">"
  type := SqlColumn.type α
  ofValue v := (SqlColumn.ofValue v).map some
  ofNull := some none

/-- A row with the names and types of its columns. -/
structure SqlRow where
  columns : List (String × SqlType)
  values : List SqlValue

namespace SqlRow

variable {α : Type} [SqlColumn α]

/-- A value read as the type that is wanted. -/
def readValue (column : ColumnName) (actual : SqlType) (value : SqlValue) :
    Except SqlFailure α :=
  match value with
  | .null =>
    match SqlColumn.ofNull (α := α) with
    | some a => .ok a
    | none => .error (.unexpectedNull column)
  | value =>
    if actual = SqlColumn.type α then
      match SqlColumn.ofValue value with
      | some a => .ok a
      | none => .error (.mismatched column (SqlColumn.typeName α) (SqlColumn.type α) actual)
    else .error (.mismatched column (SqlColumn.typeName α) (SqlColumn.type α) actual)

/-- The value of the column with a number. -/
def column (row : SqlRow) (index : Nat) : Except SqlFailure α :=
  match row.columns[index]?, row.values[index]? with
  | some (_, actual), some value => readValue (.numbered index) actual value
  | _, _ => .error (.columnOutOfRange row.columns.length index)

/-- The value of the last column with a name. -/
def field (row : SqlRow) (name : String) : Except SqlFailure α :=
  match (row.columns.zip row.values).reverse.find? fun c => c.1.1 == name with
  | some ((_, actual), value) => readValue (.named name) actual value
  | none => .error (.columnMissing name)

end SqlRow

/-- A row of the table of categories. -/
def CategoryRow.ofRow (row : SqlRow) : Except SqlFailure CategoryRow :=
  return {
    id := ← row.field "id"
    event := ← row.field "event_id"
    name := ← row.field "name"
    kind := ← row.field "kind"
    bookingKind := ← row.field "booking_kind"
    priceCents := ← row.field "price_cents"
    total := ← row.field "total"
    available := ← row.field "available" }

/-- A row of the table of seats. -/
def SeatRow.ofRow (row : SqlRow) : Except SqlFailure SeatRow :=
  return {
    id := ← row.field "id"
    category := ← row.field "category_id"
    label := ← row.field "seat_label"
    status := ← row.field "status"
    reservedUntil := ← row.field "reserved_until"
    hold := ← row.field "hold_id" }

/-- A row of the table of stock holds. -/
def HoldRow.ofRow (row : SqlRow) : Except SqlFailure HoldRow :=
  return {
    hold := ← row.field "hold_id"
    category := ← row.field "category_id"
    state := ← row.field "state"
    expiresAt := ← row.field "expires_at" }

/-- A row of the table of bookings. -/
def BookingRow.ofRow (row : SqlRow) : Except SqlFailure BookingRow :=
  return {
    id := ← row.field "id"
    attempt := ← row.field "attempt_id"
    event := ← row.field "event_id"
    category := ← row.field "category_id"
    seat := ← row.field "ticket_id"
    seatLabel := ← row.field "seat_label"
    user := ← row.field "user_id"
    status := ← row.field "status"
    holdExpiresAt := ← row.field "hold_expires_at"
    createdAt := ← row.field "created_at"
    updatedAt := ← row.field "updated_at" }

end BoxOffice
