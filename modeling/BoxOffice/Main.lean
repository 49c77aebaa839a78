import BoxOffice.Service.Launch
import Std.Time.DateTime.Timestamp

/-!
# The program

Launches the service with the configuration of its environment, writes its log to the standard
output, and says on the standard error why it ended. No driver for databases is linked in, so that a
launch ends where the first one is to be reached.
-/

namespace BoxOffice.Main

/-- The time on the system's clock. -/
def systemTime : IO Instant := do
  let time ← Std.Time.Timestamp.now
  return .ofNanos time.toNanosecondsSinceUnixEpoch.val

/-- Answers a call to the surroundings. -/
def surround : (c : Surroundings.Call) → IO c.Reply
  | .now => systemTime
  | .record (.notice n) => (IO.println n.line : IO Unit)
  | .record (.measured _) => (pure () : IO Unit)
  | .wait delay => (IO.sleep (UInt32.ofNat (min (delay.nanos / 1000000) 4294967295)) : IO Unit)
  | .draw => do
    let n ← IO.rand 500000 1000000
    return (Float.ofNat n / 1e6 : Float)
  | .freshBooking => do
    let n ← IO.rand 0 (Nat.pow 2 60 - 1)
    return (⟨Uuid.random n⟩ : BookingId)
  | .outOfTime => throw (IO.userError "the clock does not know the instant")

/-- What is said instead of reaching a database. -/
def noDriver : SqlFailure :=
  .protocol "no database driver"

/-- Answers a call to the hosts of the databases. -/
def host : (c : Hosting.Call) → IO c.Reply
  | .connect _ _ => return (.error noDriver : Except SqlFailure Unit)
  | .schema _ .records => return (.error noDriver : Except SqlFailure (List AppliedMigration))
  | .schema _ (.send _) => return (.error noDriver : Except SqlFailure SqlAnswer)

/-- Answers the calls of a launch. -/
def answer : (c : LaunchWorld.Call) → IO (LaunchWorld.Reply c)
  | .inl c => host c
  | .inr c => surround c

/-- The configuration of the environment. -/
def environment : IO Config := do
  let pairs ← Config.keys.mapM fun key => return (key, ← IO.getEnv key)
  return .ofLookup fun key => (pairs.find? fun pair => pair.1 == key).bind (·.2)

end BoxOffice.Main

open BoxOffice in
/-- Launches the service. -/
def main : IO UInt32 := do
  match ← (Launch.process (← Main.environment)).run.run Main.answer with
  | .ok () => return 0
  | .error problem =>
    IO.eprintln ("Error: " ++ problem.message)
    return 1
