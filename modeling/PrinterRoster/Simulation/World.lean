import PrinterRoster.Manual
import PrinterRoster.Session.Run
import PrinterRoster.Simulation.Source

/-! A world in which sessions and sources are run without a network. Time is a
number that only moves when nothing is left to do; places behave as they are
told; and what is asked of them and what is heard is logged. Work stands in a
queue of tasks, and work for later in a list of timers. -/
namespace PrinterRoster.Simulation

inductive Happening
  | appear (source : Nat) (printer : Printer)
  | vanish (source : Nat) (path : String)
  | connectivity (online : Bool)
  | place (path : String) (behaviour : Behaviour)
  | interrupt

inductive Task
  | query (id : PrinterId) (printer : Printer) (bypassCache : Bool)
  | answer (id : PrinterId) (answer : Option Capabilities)
  | alarm (generation deadline : Nat)
  | watch (source : Nat)
  | ask (source number : Nat) (fetch : Probe.Fetch)
  | asked (source number : Nat) (answered : Bool)
  | happen (happening : Happening)

structure Log where
  requests : List (String × Bool) := []
  cancelled : List String := []
  forgotten : List String := []
  heard : List Delivery := []
  events : List RosterEvent := []
deriving Inhabited

inductive SourceRef
  | staged (number : Nat)
  | manual (number : Nat)

structure World where
  now : Nat
  places : Table String Behaviour
  cache : Table String Capabilities
  tasks : List Task
  timers : List (Nat × Task)
  staged : List StagedSource
  manuals : List ManualSource
  sources : List SourceRef
  signal : Signal
  isFollowed : Bool
  run : Option SessionRun
  isSubscribed : Bool
  knownGoodFile : Option StoredFile
  interrupted : Bool
  log : Log

namespace World

def fresh : World :=
  ⟨0, Table.empty, Table.empty, [], [], [], [], [], .start true, false, none, true, none, false,
    {}⟩

instance : Inhabited World := ⟨fresh⟩

def sessionListener : Listener := 0

def behaviourAt (world : World) (path : String) : Behaviour :=
  (world.places.get? path).getD (.answers 0 none)

def followed (world : World) : Option Signal :=
  if world.isFollowed then some world.signal else none

def moment (world : World) : Session.Moment :=
  ⟨world.now, fun printer => world.cache.get? printer.path⟩

def addTasks (world : World) (tasks : List Task) : World :=
  { world with tasks := world.tasks ++ tasks }

def later (world : World) (delay : Nat) (task : Task) : World :=
  { world with timers := world.timers ++ [(world.now + delay, task)] }

def send (world : World) (command : Session.Command) : World :=
  { world with run := world.run.map fun run => run.send command }

def report (world : World) (sightings : List Sighting) : World :=
  sightings.foldl (fun world sighting => world.send (.ofSighting sighting)) world

def deliver (world : World) (deliveries : List Delivery) : World :=
  if world.run.isSome then world.report (deliveries.map Delivery.sighting)
  else { world with log := { world.log with heard := world.log.heard ++ deliveries } }

def query (world : World) (path : String) (bypassCache : Bool) : World × Behaviour :=
  ({ world with log := { world.log with requests := world.log.requests ++ [(path, bypassCache)] } },
    world.behaviourAt path)

def withoutLog (world : World) : World := { world with log := {} }

end World

end PrinterRoster.Simulation
