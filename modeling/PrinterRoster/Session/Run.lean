import PrinterRoster.Session.Step

/-! A session that runs by itself. Whoever holds it sends it commands, and so do
its sources and the queries it began; they wait in a queue. The run ends with a
command to destroy the session, or when nobody holds it any more and the queue is
empty. Nothing that is sent later arrives. -/
namespace PrinterRoster

inductive Session.Phase
  | running
  | ended
  | broken
deriving DecidableEq

structure SessionRun where
  session : Session
  queue : List Session.Command
  isHeld : Bool
  phase : Session.Phase

namespace SessionRun
open Session

def start (session : Session) : SessionRun := ⟨session, [], true, .running⟩

def send (run : SessionRun) (command : Command) : SessionRun :=
  if run.phase = .running && run.isHeld then { run with queue := run.queue ++ [command] } else run

def letGo (run : SessionRun) : SessionRun := { run with isHeld := false }

def finish (run : SessionRun) (phase : Phase) : SessionRun := { run with phase, queue := [] }

def handle (run : SessionRun) (moment : Moment) (command : Command) :
    SessionRun × List Effect :=
  let (session, effects) := run.session.handle moment command
  ({ run with session }, effects)

def next? (run : SessionRun) (moment : Moment) : Option (SessionRun × List Effect) :=
  if run.phase ≠ .running then none
  else
    match run.queue with
    | command :: others =>
      let (run, effects) := handle { run with queue := others } moment command
      some (if command.continues then run else run.finish .ended, effects)
    | [] =>
      if run.isHeld then none
      else
        let (session, effects) := run.session.teardown
        some (finish { run with session } .ended, effects)

/-- Nothing is sent to a run that is over. -/
theorem send_of_not_running {run : SessionRun} (stopped : run.phase ≠ .running) (command : Command) :
    run.send command = run := by
  simp [send, stopped]

theorem next?_of_not_running {run : SessionRun} (stopped : run.phase ≠ .running) (moment : Moment) :
    run.next? moment = none := by
  simp [next?, stopped]

end SessionRun

end PrinterRoster
