import PrinterRoster.Hub
import PrinterRoster.KnownGood
import PrinterRoster.Roster.Record

/-! A discovery session owns a roster of printers. It handles one command after
another; each changes the roster and has effects outside the session, which are
given as data in the order in which they happen. -/
namespace PrinterRoster

structure Session where
  window : Nat
  records : Table PrinterId Record
  priority : List PrinterId
  tracking : List PrinterId
  knownGood : KnownGood
  deadline : Option Nat
  /-- How often a deadline was set, which tells its tick from earlier ones. -/
  generation : Nat
  destroyed : Bool

namespace Session

inductive Command
  | start (priority : List PrinterId)
  | stop
  | track (id : PrinterId)
  | untrack (id : PrinterId)
  | found (printer : Printer)
  | lost (printer : Printer)
  | answered (id : PrinterId) (answer : Option Capabilities)
  | tick (generation : Nat)
  | destroy
deriving DecidableEq

def Command.ofSighting : Sighting → Command
  | .found printer => found printer
  | .lost printer => lost printer

inductive Effect
  | publish (event : RosterEvent)
  | query (id : PrinterId) (printer : Printer) (bypassCache : Bool)
  | forget (uri : String)
  | arm (generation deadline : Nat)
  | disarm
  | startSources
  | stopSources
  | save (knownGood : KnownGood)
deriving DecidableEq

/-- What a command is handled with: the time, and what is cached for a printer. -/
structure Moment where
  now : Nat
  cached : Printer → Option Capabilities

def fresh (window : Nat) (knownGood : KnownGood) : Session :=
  ⟨window, Table.empty, [], [], knownGood, none, 0, false⟩

def isPriority (session : Session) (id : PrinterId) : Bool :=
  session.priority.contains id || session.tracking.contains id

end Session

end PrinterRoster
