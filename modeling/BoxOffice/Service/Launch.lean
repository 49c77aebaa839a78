import BoxOffice.Database.Migration
import BoxOffice.Journal.Exporter
import BoxOffice.Service.Config
import BoxOffice.Surroundings

/-!
# Launching the service

Before the service can run, its configuration has to make sense, its metrics have to be shown, and
its two databases have to be reached and brought to their shape, one after the other. The first
problem ends the launch.
-/

namespace BoxOffice

/-- The two databases of the service. -/
inductive Side
  | inventory
  | booking
  deriving DecidableEq, Repr

namespace Side

/-- The name of a database in messages. -/
def name : Side → String
  | inventory => "inventory"
  | booking => "booking"

/-- The settings of a database. -/
def settings (c : Config) : Side → DatabaseConfig
  | inventory => c.inventory
  | booking => c.booking

/-- The migrations of a database. -/
def migrations : Side → List Migration
  | inventory => [.inventory]
  | booking => [.bookings]

end Side

/-- Why the service cannot run. -/
inductive LaunchProblem
  | configuration (problem : ConfigProblem)
  | unreachable (side : Side)
  | unmigrated (side : Side) (problem : MigrationProblem)
  deriving DecidableEq, Repr

/-- The wording of a problem. -/
def LaunchProblem.message : LaunchProblem → String
  | .configuration problem => problem.message
  | .unreachable side => "Failed to connect to " ++ side.name ++ " database"
  | .unmigrated side _ => "Failed to migrate " ++ side.name ++ " database"

namespace Hosting

/-- The calls to the hosts of the databases. -/
inductive Call
  /-- Open connections. -/
  | connect (side : Side) (settings : DatabaseConfig)
  | schema (side : Side) (call : Schema.Call)

/-- What each call is answered with. -/
def Call.Reply : Call → Type
  | connect _ _ => Except SqlFailure Unit
  | schema _ call => call.Reply

end Hosting

/-- The hosts of the databases. -/
def Hosting : Interface where
  Call := Hosting.Call
  Reply := Hosting.Call.Reply

/-- What a launch works with. -/
abbrev LaunchWorld : Interface :=
  Hosting.sum Surroundings

namespace Launch

/-- A part of the launch. -/
abbrev Phase (α : Type) : Type :=
  ExceptT LaunchProblem (Program LaunchWorld) α

/-- Runs a program on the tables of one database. -/
def onSide {α : Type} (side : Side) (p : Program Schema α) : Program LaunchWorld α :=
  p.run fun call => Offers.call (J := Hosting) (.schema side call)

/-- Reaches a database and brings it to its shape. -/
def openSide (c : Config) (side : Side) : Phase Unit := do
  match ← ExceptT.lift (Offers.call (J := Hosting) (.connect side (side.settings c))) with
  | .error _ => throw (.unreachable side)
  | .ok () =>
    Surroundings.note .poolReady
    match ← ExceptT.lift (onSide side (Migration.makeAll side.migrations).run) with
    | .error problem => throw (.unmigrated side problem)
    | .ok () => return ()

/-- Reaches both databases. -/
def connect (c : Config) : Phase Unit := do
  openSide c .inventory
  openSide c .booking

/-- The part of a configuration that was asked for, or the end of the launch. -/
def configured {α : Type} : Except ConfigProblem α → Phase α
  | .ok a => return a
  | .error problem => throw (.configuration problem)

/-- The whole launch of a process. -/
def process (c : Config) : Phase Unit := do
  Surroundings.note .starting
  configured c.validate
  Surroundings.note .configured
  let (_, notice) := (Exporter.idle (← configured c.metricsAddress)).start false
  Surroundings.note notice
  connect c

end Launch

end BoxOffice
