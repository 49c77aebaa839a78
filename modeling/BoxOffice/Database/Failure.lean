import BoxOffice.Database.Value

/-!
# Database failures

Why a statement has no result, in the words of the database or of its driver. A violated constraint
is the caller's fault; everything else is not.
-/

namespace BoxOffice

/-- How a message names a column. -/
inductive ColumnName
  | named (name : String)
  | numbered (index : Nat)
  deriving DecidableEq, Repr

/-- The column in a message. -/
def ColumnName.text : ColumnName → String
  | named name => "\"" ++ name ++ "\""
  | numbered index => Text.decimal index

/-- Why a statement has no result. -/
inductive SqlFailure
  /-- The database refused the statement with a code of five characters and a message. -/
  | database (code message : String)
  /-- The database sent what makes no sense. -/
  | protocol (message : String)
  | poolTimedOut
  | poolClosed
  | workerCrashed
  /-- A row has to come back and none did. -/
  | rowMissing
  | columnMissing (name : String)
  | columnOutOfRange (columns index : Nat)
  /-- A column of one type was to be read as another, with the names of both. -/
  | mismatched (column : ColumnName) (wanted : String) (wantedType actual : SqlType)
  /-- A column without a value was to be read as one with. -/
  | unexpectedNull (column : ColumnName)
  deriving DecidableEq, Repr

namespace SqlFailure

/-- The wording of a failure. -/
def message : SqlFailure → String
  | database _ message => "error returned from database: " ++ message
  | protocol message => "encountered unexpected or invalid data: " ++ message
  | poolTimedOut => "pool timed out while waiting for an open connection"
  | poolClosed => "attempted to acquire a connection on a closed pool"
  | workerCrashed => "attempted to communicate with a crashed background worker"
  | rowMissing => "no rows returned by a query that expected to return at least one row"
  | columnMissing name => "no column found for name: " ++ name
  | columnOutOfRange columns index =>
    "column index out of bounds: the len is " ++ Text.decimal columns ++ ", but the index is " ++
      Text.decimal index
  | mismatched column wanted wantedType actual =>
    "error occurred while decoding column " ++ column.text ++ ": mismatched types; Rust type `" ++
      wanted ++ "` (as SQL type `" ++ wantedType.title ++
      "`) is not compatible with SQL type `" ++ actual.title ++ "`"
  | unexpectedNull column =>
    "error occurred while decoding column " ++ column.text ++
      ": unexpected null; try decoding as an `Option`"

/-- The codes of a violated unique, foreign key or check constraint. -/
def constraintCodes : List String := ["23505", "23503", "23514"]

/-- A constraint was violated. -/
def isConstraint : SqlFailure → Bool
  | database code _ => constraintCodes.contains code
  | _ => false

end SqlFailure

end BoxOffice
