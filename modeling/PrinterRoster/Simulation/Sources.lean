import PrinterRoster.Simulation.World

/-! How the world starts, stops and changes its sources. -/
namespace PrinterRoster.Simulation.World

def manual? (world : World) (number : Nat) : Option ManualSource := world.manuals[number]?

def currentManual (world : World) : Nat := world.manuals.length - 1

def setManual (world : World) (number : Nat) (changed : ManualSource × List Delivery) : World :=
  deliver { world with manuals := world.manuals.set number changed.1 } changed.2

def wake (world : World) (number : Nat) : World :=
  match world.manual? number with
  | some source => if source.isDue world.followed then world.addTasks [.watch number] else world
  | none => world

def wakeAll (world : World) : World := (List.range world.manuals.length).foldl wake world

def changeManual (world : World) (number : Nat)
    (change : ManualSource → ManualSource × List Delivery) : World :=
  match world.manual? number with
  | some source => wake (world.setManual number (change source)) number
  | none => world

def isRefresh (number : Nat) : Task → Bool
  | .watch source => source = number
  | .ask source .. => source = number
  | .asked source .. => source = number
  | _ => false

def isUnasked (world : World) (source number : Nat) : Bool :=
  world.tasks.any fun
    | .ask other query _ => other = source && query = number
    | _ => false

def dropRefresh (world : World) (number : Nat) (isOpen : List SavedQuery) : World :=
  let begun := isOpen.filter fun query => !world.isUnasked number query.number
  { world with
    tasks := world.tasks.filter fun task => !isRefresh number task
    timers := world.timers.filter fun timer => !isRefresh number timer.2
    log := { world.log with cancelled := world.log.cancelled ++ begun.map (·.printer.path) } }

def startManual (world : World) (number : Nat) (listener : Listener) : World :=
  world.changeManual number (·.start listener)

def stopManual (world : World) (number : Nat) (listener : Listener) : World :=
  match world.manual? number with
  | none => world
  | some source =>
    let changed := source.stop listener
    let world := world.setManual number changed
    if changed.1.watcher = .absent then world.dropRefresh number source.openQueries else world

def setStaged (world : World) (number : Nat) (changed : StagedSource) (sightings : List Sighting) :
    World :=
  report { world with staged := world.staged.set number changed } sightings

def changeSource (world : World) (manualChange : World → Nat → World)
    (stagedChange : StagedSource → StagedOutcome) : SourceRef → World × Bool
  | .manual number => (manualChange world number, false)
  | .staged number =>
    match world.staged[number]? with
    | none => (world, false)
    | some source =>
      let outcome := stagedChange source
      (world.setStaged number outcome.source outcome.sightings, outcome.broke)

def changeSources (manualChange : World → Nat → World) (stagedChange : StagedSource → StagedOutcome) :
    List SourceRef → World → World × Bool
  | [], world => (world, false)
  | source :: others, world =>
    match world.changeSource manualChange stagedChange source with
    | (world, true) => (world, true)
    | (world, false) => changeSources manualChange stagedChange others world

def startSources (world : World) : World × Bool :=
  changeSources (·.startManual · sessionListener) StagedSource.start world.sources world

def stopSources (world : World) : World × Bool :=
  changeSources (·.stopManual · sessionListener) StagedSource.stop world.sources world

def setOnline (world : World) (online : Bool) : World :=
  if world.signal.isOpen then wakeAll { world with signal := world.signal.send online } else world

def closeSignal (world : World) : World := wakeAll { world with signal := world.signal.close }

def place (world : World) (path : String) (behaviour : Behaviour) : World :=
  { world with places := world.places.insert path behaviour }

def appear (world : World) (number : Nat) (printer : Printer) : World :=
  match world.staged[number]? with
  | some source =>
    let (changed, sightings) := source.appear printer
    world.setStaged number changed sightings
  | none => world

def vanish (world : World) (number : Nat) (path : String) : World :=
  match world.staged[number]? with
  | some source =>
    let (changed, sightings) := source.vanish path
    world.setStaged number changed sightings
  | none => world

def happen (world : World) : Happening → World
  | .appear source printer => world.appear source printer
  | .vanish source path => world.vanish source path
  | .connectivity online => world.setOnline online
  | .place path behaviour => world.place path behaviour
  | .interrupt => { world with interrupted := true }

end PrinterRoster.Simulation.World
