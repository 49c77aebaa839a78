import BoxOffice.Journal.Record
import BoxOffice.Service.Address

/-!
# The exporter

The place where the metrics can be looked up. A process records its metrics in one place only: an
exporter that comes when the recorder is taken shows nothing.
-/

namespace BoxOffice

/-- The place where the metrics can be looked up. -/
structure Exporter where
  address : SocketAddress
  /-- What is measured is shown here. -/
  shows : Bool
  deriving DecidableEq, Repr

namespace Exporter

/-- An exporter that is not at work yet. -/
def idle (address : SocketAddress) : Exporter :=
  { address, shows := false }

/-- Puts an exporter to work. -/
def start (recorderTaken : Bool) (e : Exporter) : Exporter × Notice :=
  if recorderTaken then (e, .recorderTaken)
  else ({ e with shows := true }, .metricsServed e.address.render)

end Exporter

end BoxOffice
