import BoxOffice.Database.Column
import BoxOffice.Program.Service
import BoxOffice.Surroundings

/-!
# Database sessions

Statements one by one and in transactions. A failure is counted by its class and becomes the
caller's error. A transaction that is left before its end, or whose end fails, is rolled back; what
comes of that roll-back is of no interest.
-/

namespace BoxOffice

/-- What the database stores work with. -/
abbrev DatabaseWorld : Interface :=
  Sql.sum Surroundings

namespace Database

variable {α : Type}

/-- The class under which a failure is counted. -/
def classOf (f : SqlFailure) : FailureClass :=
  if f.isConstraint then .constraint else .internal

/-- The error that a failure becomes. -/
def errorOf (f : SqlFailure) : Error :=
  { kind := if f.isConstraint then .invalidArgument else .internal, message := f.message }

/-- Counts a failure and ends with its error. -/
def reject (f : SqlFailure) : Service DatabaseWorld α := do
  Surroundings.count (.databaseError (classOf f))
  if !f.isConstraint then Surroundings.note .databaseFailed
  throw (errorOf f)

/-- The value of a result, or the end with its failure. -/
def demand : Except SqlFailure α → Service DatabaseWorld α
  | .ok a => return a
  | .error f => reject f

/-- Sends a statement. -/
def send (s : Statement) : Program DatabaseWorld (Except SqlFailure SqlAnswer) :=
  Offers.call (J := Sql) s

/-- Sends a statement that has to succeed. -/
def perform (s : Statement) : Service DatabaseWorld SqlAnswer := do
  demand (← send s)

/-- Sends a statement and tells how many rows it affected. -/
def execute (s : Statement) : Service DatabaseWorld Nat := do
  return (← perform s).affected

/-- The rows of an answer. -/
def rowsOf (a : SqlAnswer) : List SqlRow :=
  a.rows.map fun values => { columns := a.columns, values }

/-- The first row that a statement gives, if any. -/
def fetchOptional (s : Statement) (read : SqlRow → Except SqlFailure α) :
    Service DatabaseWorld (Option α) := do
  match rowsOf (← perform s) with
  | [] => return none
  | row :: _ => some <$> demand (read row)

/-- The first row that a statement gives; there has to be one. -/
def fetchOne (s : Statement) (read : SqlRow → Except SqlFailure α) :
    Service DatabaseWorld α := do
  match rowsOf (← perform s) with
  | [] => reject .rowMissing
  | row :: _ => demand (read row)

/-- Every row that a statement gives. -/
def fetchAll (s : Statement) (read : SqlRow → Except SqlFailure α) :
    Service DatabaseWorld (List α) := do
  demand ((rowsOf (← perform s)).mapM read)

/-- The value that a stored row stands for. -/
def interpret : Result α → Service DatabaseWorld α :=
  ExceptT.mk ∘ pure

/-- How a transaction is to end. -/
inductive Ending
  | commit
  | rollback
  deriving DecidableEq, Repr

/-- The statement of an ending. -/
def Ending.statement : Ending → Statement
  | commit => .commit
  | rollback => .rollback

/-- Leaves a transaction without regard to what comes of it. -/
def abandon : Service DatabaseWorld Unit := do
  let _ ← send .rollback

/-- Runs the body as one transaction and ends it as the body says. -/
def transaction (body : Service DatabaseWorld (Ending × α)) : Service DatabaseWorld α := do
  let _ ← perform .begin
  match ← body.outcome with
  | .error e =>
    abandon
    throw e
  | .ok (ending, a) =>
    match ← (perform ending.statement).outcome with
    | .error e =>
      abandon
      throw e
    | .ok _ => return a

end Database

end BoxOffice
