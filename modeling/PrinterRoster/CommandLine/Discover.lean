import PrinterRoster.Config
import PrinterRoster.Probe
import PrinterRoster.Roster.Record
import PrinterRoster.Simulation.Step

/-! The command that watches for printers. It first looks for a printer at each
host it was given, and saves what it finds. Then it starts a session over the
saved printers and over a search of the local network, prints every change of the
roster, and after a time, or when it is interrupted, destroys the session and
shuts the search down. -/
namespace PrinterRoster.CommandLine
open Simulation

def lines (texts : List String) : String := String.join (texts.map (· ++ "\n"))

def probeText (host : String) : ProbeOutcome → String
  | .found printer supported =>
    lines <|
      [host ++ ": found " ++ printer.name ++ " at " ++ printer.path] ++
      (printer.uuid.map ("  uuid: " ++ ·)).toList ++
      (if supported then [] else ["  printer does not accept any supported document format"])
  | .notFound => lines [host ++ ": no printer found"]

def infoText (info : PrinterInfo) : String :=
  lines <|
    ["+ " ++ info.name ++ " [" ++ info.status.name ++ "] " ++ info.id.text,
      "  " ++ info.description] ++
    (info.location.map ("  location: " ++ ·)).toList

def eventText : RosterEvent → String
  | .added info => infoText info
  | .removed ids => lines (ids.map fun id => "- " ++ id.text)

structure Search where
  source : StagedSource
  isAvailable : Bool
  shutdownFailure : Option Failure

structure Environment where
  config : Config
  online : Bool
  places : Table String Behaviour
  search : Search
  timeline : List (Nat × Happening)
  knownGoodFile : StoredFile
  manualFile : StoredFile
  clock : Stamp

structure Discovery where
  result : Except Failure Unit
  printed : String
  shutdowns : Nat
  world : World

namespace Discovery

/-- The world when the command begins. What happens then waits for its turn, as
all work does. The first source is that of the saved printers; the session does
not exist yet. -/
def initialWorld (environment : Environment) : World :=
  let timeline := environment.timeline.map fun (instant, happening) => (instant, Task.happen happening)
  let (due, later) := timeline.partition fun timer => timer.1 = 0
  { World.fresh with
    places := environment.places
    tasks := due.map Prod.snd
    timers := later
    staged := [environment.search.source]
    manuals := [.openFile environment.manualFile]
    sources := .manual 0 :: if environment.search.isAvailable then [.staged 0] else []
    signal := .start environment.online
    isFollowed := true }

def patience : Nat := UInt64.size * 1000

def addHosts (setting : Setting) : List String → World → World × String
  | [], world => (world, "")
  | host :: others, world =>
    let (world, result) := world.add setting host
    let printed := match result with
      | .outcome outcome => probeText host outcome
      | _ => ""
    let (world, rest) := addHosts setting others world
    (world, printed ++ rest)

def startSession (environment : Environment) (world : World) : World :=
  let world := world.settle
  let priority := (world.manual? 0).map fun source => source.saved.map (·.printer.id)
  let session := Session.fresh environment.config.expirationMillis.toNat
    (KnownGood.load environment.knownGoodFile environment.config.knownGoodCapacity.toNat)
  World.send
    { world with
      run := some (SessionRun.start session)
      knownGoodFile := some environment.knownGoodFile }
    (.start (priority.getD []))

def isOver (world : World) : Bool := world.interrupted || !world.run.any (·.phase = .running)

def longestWatch : Nat := 30 * 365 * 86400

/-- Follows the session for a time. What is due at the very end of it comes too late. -/
def watch (seconds : Nat) (world : World) : World :=
  if seconds = 0 then world
  else
    let deadline := world.now + min seconds longestWatch * 1000
    let world := World.passUntil isOver (deadline - 1) World.instantLimit world.settle
    if isOver world then world else { world with now := deadline }

/-- Carries out the command. An interrupt is heard only while the session is
followed: one that comes while hosts are looked at is lost. -/
def run (environment : Environment) (seconds : Nat) (hosts : List String) : Discovery :=
  let setting : Setting := ⟨environment.config.endpointTemplates, patience, environment.clock⟩
  let (world, reports) := addHosts setting hosts (initialWorld environment)
  let world := watch seconds (startSession environment { world with interrupted := false })
  let printed := reports ++ String.join (world.log.events.map eventText)
  match world.destroy with
  | (world, .accepted) =>
    if environment.search.isAvailable then
      match environment.search.shutdownFailure with
      | some failure => ⟨.error failure, printed, 1, world⟩
      | none => ⟨.ok (), printed, 1, world⟩
    else ⟨.ok (), printed, 0, world⟩
  | (world, _) => ⟨.error .sessionClosed, printed, 0, world⟩

end Discovery

end PrinterRoster.CommandLine
