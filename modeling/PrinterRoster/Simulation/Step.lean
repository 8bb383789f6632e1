import PrinterRoster.Simulation.Turn

/-! Steps in which a world is driven from outside, each with a result. After a
step the world settles; steps of a batch are taken in a row before it does. -/
namespace PrinterRoster.Simulation

inductive Step
  | command (command : Session.Command)
  | call (command : Session.Command)
  | report (sighting : Sighting)
  | destroy
  | letGo
  | closeEvents
  | seed (path : String) (answer : Option Capabilities)
  | happen (happening : Happening)
  | closeSignal
  | add (host : String)
  | remove (id : PrinterId)
  | startListener (listener : Listener)
  | stopListener (listener : Listener)
  | reopen
  | advance (duration : Nat)

inductive Result
  | nothing
  | flag (value : Bool)
  | handled (continues : Bool)
  | accepted
  | refused (failure : Failure)
  | gone
  | outcome (outcome : ProbeOutcome)
  | pending

structure Setting where
  templates : List EndpointTemplate
  patience : Nat
  clock : Stamp

namespace World

def call (world : World) (command : Session.Command) : World × Result :=
  match world.run with
  | none => (world, .gone)
  | some run =>
    if !run.isHeld then (world, .gone)
    else if run.phase ≠ .running then (world, .refused .sessionClosed)
    else (world.send command, .accepted)

def letGo (world : World) : World := settle { world with run := world.run.map SessionRun.letGo }

def destroy (world : World) : World × Result :=
  match world.call .destroy with
  | (world, .accepted) =>
    let world := world.settle
    let ended := world.run.any (·.phase = .ended)
    (world.letGo, if ended then .accepted else .refused .sessionClosed)
  | (world, .gone) => (world, .nothing)
  | (world, other) => (world.letGo, other)

/-- Looks for a printer at a host. The queries, if there are any, begin after the
work that waits; time passes until there is an outcome or nobody waits for it any
longer. -/
def probe (world : World) (setting : Setting) (host : String) : World × Result :=
  let begins := !setting.templates.isEmpty && (Probe.hostname? host).isOk
  let world := if begins then world.settle else world
  match Probe.run setting.templates world.behaviourAt setting.patience host with
  | .error failure => (world, .refused failure)
  | .ok probe =>
    let log := world.log
    let world : World := { world with
      log := { log with requests := log.requests ++
        probe.fetches.map fun fetch => (fetch.uri, fetch.bypassesCache) } }
    let world := if probe.elapsed = 0 then world else world.advance probe.elapsed
    let world : World := { world with
      log := { world.log with cancelled := world.log.cancelled ++ probe.dropped ++ probe.abandoned } }
    (world, (probe.outcome.map Result.outcome).getD .pending)

def add (world : World) (setting : Setting) (host : String) : World × Result :=
  if world.manuals.isEmpty then (world, .nothing)
  else
    match world.probe setting host with
    | (world, .outcome outcome) =>
      (world.changeManual world.currentManual (·.add outcome setting.clock), .outcome outcome)
    | other => other

def remove (world : World) (id : PrinterId) : World × Result :=
  match world.manual? world.currentManual with
  | none => (world, .nothing)
  | some source =>
    let (source, deliveries, removed) := source.remove id
    (world.setManual world.currentManual (source, deliveries), .flag removed)

def reopen (world : World) : World :=
  match world.manual? world.currentManual with
  | none => world
  | some source => { world with manuals := world.manuals ++ [.openFile source.file] }

def take (world : World) (setting : Setting) : Step → World × Result
  | .command command => (world.handle command, .handled command.continues)
  | .call command => world.call command
  | .report sighting => (world.report [sighting], .nothing)
  | .destroy => world.destroy
  | .letGo => (world.letGo, .nothing)
  | .closeEvents => ({ world with isSubscribed := false }, .nothing)
  | .seed path (some answer) => ({ world with cache := world.cache.insert path answer }, .nothing)
  | .seed path none => ({ world with cache := world.cache.erase path }, .nothing)
  | .happen (.connectivity online) =>
    (world.setOnline online,
      if world.signal.isOpen then .flag true else .nothing)
  | .happen happening => (world.happen happening, .nothing)
  | .closeSignal => (world.closeSignal, .nothing)
  | .add host => world.add setting host
  | .remove id => world.remove id
  | .startListener listener => (world.startManual world.currentManual listener, .accepted)
  | .stopListener listener => (world.stopManual world.currentManual listener, .nothing)
  | .reopen => (world.reopen, .nothing)
  | .advance duration => (world.settle.advance duration, .nothing)

def takeAll (setting : Setting) (world : World) : List Step → World × List Result
  | [] => (world, [])
  | step :: others =>
    let (world, result) := world.take setting step
    let (world, results) := takeAll setting world others
    (world, result :: results)

def batch (setting : Setting) (world : World) (steps : List Step) : World × List Result :=
  let (world, results) := takeAll setting world.withoutLog steps
  (world.settle, results)

end World

end PrinterRoster.Simulation
