import PrinterRoster.Simulation.Sources

/-! The world's turns. The session comes first: while commands are queued it
handles them, and when nobody holds it any more and the queue is empty it ends.
Then come the tasks, in the order in which they were made. The world has settled
when neither has anything to do. -/
namespace PrinterRoster.Simulation.World

def carryOut (world : World) : Session.Effect → World × Bool
  | .publish event =>
    if world.isSubscribed then
      ({ world with log := { world.log with events := world.log.events ++ [event] } }, false)
    else (world, false)
  | .query id printer bypassCache => (world.addTasks [.query id printer bypassCache], false)
  | .forget uri =>
    ({ world with
        cache := world.cache.erase uri
        log := { world.log with forgotten := world.log.forgotten ++ [uri] } },
      false)
  | .arm generation deadline => (world.addTasks [.alarm generation deadline], false)
  | .disarm =>
    let isAlarm : Task → Bool := fun
      | .alarm .. => true
      | _ => false
    ({ world with
        tasks := world.tasks.filter fun task => !isAlarm task
        timers := world.timers.filter fun timer => !isAlarm timer.2 },
      false)
  | .startSources => world.startSources
  | .stopSources => world.stopSources
  | .save knownGood =>
    ({ world with knownGoodFile := world.knownGoodFile.map knownGood.save }, false)

/-- Carries out effects in order. When a source breaks down the session is broken
and the other effects do not come about. -/
def carryOutAll : List Session.Effect → World → World
  | [], world => world
  | effect :: others, world =>
    match world.carryOut effect with
    | (world, false) => carryOutAll others world
    | (world, true) => { world with run := world.run.map fun run => run.finish .broken }

def adopt (world : World) (turn : SessionRun × List Session.Effect) : World :=
  carryOutAll turn.2 { world with run := some turn.1 }

def handle (world : World) (command : Session.Command) : World :=
  match world.run with
  | some run => world.adopt (run.handle world.moment command)
  | none => world

def sessionTurn? (world : World) : Option World :=
  (world.run.bind fun run => run.next? world.moment).map world.adopt

def endQuery (world : World) (source number : Nat) (answered : Bool) : World :=
  world.changeManual source (·.queryEnded number answered)

def watch (world : World) (number : Nat) : World :=
  let world := world.changeManual number (·.look world.followed)
  match world.manual? number with
  | some source =>
    world.addTasks (source.openQueries.map fun query => .ask number query.number query.fetch)
  | none => world

def perform (world : World) : Task → World
  | .query id printer bypassCache =>
    match world.query printer.path bypassCache with
    | (world, .answers 0 answer) => world.send (.answered id answer)
    | (world, .answers delay answer) => world.later delay (.answer id answer)
    | (world, .silent) => world
    | (world, .breaksDown) => world
  | .answer id answer => world.send (.answered id answer)
  | .alarm generation deadline =>
    if deadline ≤ world.now then world.send (.tick generation)
    else world.later (deadline - world.now) (.alarm generation deadline)
  | .watch number =>
    if (world.manual? number).any (·.isDue world.followed) then world.watch number else world
  | .ask source number fetch =>
    match world.query fetch.uri fetch.bypassesCache with
    | (world, .answers 0 answer) => world.endQuery source number answer.isSome
    | (world, .answers delay answer) => world.later delay (.asked source number answer.isSome)
    | (world, .silent) => world
    | (world, .breaksDown) => world.endQuery source number false
  | .asked source number answered => world.endQuery source number answered
  | .happen happening => world.happen happening

def turn? (world : World) : Option World :=
  world.sessionTurn?.or <|
    match world.tasks with
    | task :: others => some (perform { world with tasks := others } task)
    | [] => none

def settleWithin : (turns : Nat) → World → World
  | 0, world => world
  | turns + 1, world =>
    match world.turn? with
    | some world => settleWithin turns world
    | none => world

def turnLimit : Nat := 1000000

def settle (world : World) : World := settleWithin turnLimit world

def nextInstant? (world : World) (last : Nat) : Option Nat :=
  ((world.timers.map Prod.fst).filter (· ≤ last)).min?

def moveTo (world : World) (instant : Nat) : World :=
  let (due, left) := world.timers.partition fun timer => timer.1 ≤ instant
  { world with now := instant, timers := left, tasks := world.tasks ++ due.map Prod.snd }

def passUntil (isOver : World → Bool) (last : Nat) : (instants : Nat) → World → World
  | 0, world => world
  | instants + 1, world =>
    if isOver world then world
    else
      match world.nextInstant? last with
      | some instant => passUntil isOver last instants (world.moveTo instant).settle
      | none => (world.moveTo (max last world.now)).settle

def instantLimit : Nat := 1000000

def advance (world : World) (duration : Nat) : World :=
  passUntil (fun _ => false) (world.now + duration) instantLimit world

end PrinterRoster.Simulation.World
