import PrinterRoster.Capabilities
import PrinterRoster.Printer
import PrinterRoster.Text.Fields
import PrinterRoster.Uri
import PrinterRoster.Uuid

/-! The race for a printer at a host. Each candidate URI has a task that queries
it. A task ends when its query does or once its token is cancelled, and reports
which. Whoever runs the race takes the reports one by one: the first that brings
capabilities decides it, and cancels every task in flight. The race is over when
no task is left. -/
namespace PrinterRoster

inductive Behaviour
  | answers (delay : Nat) (answer : Option Capabilities)
  | silent
  | breaksDown
deriving DecidableEq, Inhabited

namespace Behaviour

def endsAfter? : Behaviour → Option Nat
  | answers delay _ => some delay
  | silent => none
  | breaksDown => some 0

def answer? : Behaviour → Option Capabilities
  | answers _ answer => answer
  | _ => none

end Behaviour

inductive ProbeOutcome
  | found (printer : Printer) (supported : Bool)
  | notFound
deriving DecidableEq

namespace Probe

/-- The uuid under which a printer that reports one is known: in canonical form
if it is well formed, and as it is otherwise. -/
def identity (reported : String) : Option String :=
  if (Text.trim reported.toList).isEmpty then none
  else some ((Uuid.normalize reported).getD reported)

theorem identity_ne_some_empty (reported : String) : identity reported ≠ some "" := by
  unfold identity
  split
  · nofun
  · rename_i shows
    cases accepts : Uuid.normalize reported with
    | some canonical =>
      rintro ⟨⟩
      exact Uuid.normalize_ne_some_empty reported accepts
    | none =>
      rintro ⟨⟩
      exact shows rfl

def resolved (host uri : String) (answer : Capabilities) : Printer :=
  Printer.report (identity answer.uuid)
    (if answer.name.isEmpty then (Uri.hostOf? uri).getD host else answer.name) uri answer.location

/-- A printer is at the URI where it answered, under the name that it gives or that of the host, with
its location unless that is empty. -/
theorem resolved_eq (host uri : String) (answer : Capabilities) :
    resolved host uri answer =
      { uuid := identity answer.uuid
        name := if answer.name = "" then (Uri.hostOf? uri).getD host else answer.name
        path := uri
        location := answer.location.filter (· ≠ "") } := by
  simp only [resolved, Printer.report_eq (identity_ne_some_empty _), String.isEmpty_iff]

structure Fetch where
  uri : String
  bypassesCache : Bool
deriving DecidableEq

structure Task where
  index : Nat
  uri : String
  behaviour : Behaviour
  hasBegun : Bool
  isCancelled : Bool

inductive Report
  | answered (index : Nat) (uri : String) (answer : Option Capabilities)
  | cancelled (index : Nat)
  | failed

namespace Task

/-- What a task reports when it is looked at, if it ends then. It looks at its
token before it looks at its query. -/
def report? (task : Task) (now : Nat) : Option Report :=
  if task.isCancelled then some (.cancelled task.index)
  else
    match task.behaviour with
    | .answers delay answer =>
      if delay ≤ now then some (.answered task.index task.uri answer) else none
    | .silent => none
    | .breaksDown => some .failed

def fetch? (task : Task) : Option Fetch :=
  if task.isCancelled || task.hasBegun then none else some ⟨task.uri, true⟩

def dropped? (task : Task) : Option String :=
  if task.isCancelled && task.hasBegun then some task.uri else none

def begin (task : Task) : Task := { task with hasBegun := true }

def cancel (task : Task) : Task := { task with isCancelled := true }

end Task

structure Race where
  host : String
  tasks : List Task
  inFlight : Table Nat String
  outcome : Option ProbeOutcome
  fetches : List Fetch
  dropped : List String

namespace Race

def start (host : String) (uris : List String) (behave : String → Behaviour) : Race :=
  let tasks := uris.mapIdx fun index uri => ⟨index, uri, behave uri, false, false⟩
  ⟨host, tasks, Table.ofList (tasks.map fun (task : Task) => (task.index, task.uri)), none, [], []⟩

def cancelInFlight (race : Race) : Race :=
  { race with
    tasks := race.tasks.map fun task =>
      if race.inFlight.contains task.index then task.cancel else task
    inFlight := Table.empty }

def land (race : Race) (index : Nat) : Race :=
  { race with inFlight := race.inFlight.erase index }

def hear (race : Race) : Report → Race
  | .answered index uri (some answer) =>
    if race.outcome.isNone then
      { (race.land index).cancelInFlight with
        outcome := some (.found (resolved race.host uri answer) answer.isSupported) }
    else race.land index
  | .answered index _ none => race.land index
  | .cancelled index => race.land index
  | .failed => race

/-- Looks at every task once, in order, and then takes the reports of those that
ended. -/
def round (race : Race) (now : Nat) : Race :=
  (race.tasks.filterMap (·.report? now)).foldl hear
    { race with
      tasks := (race.tasks.filter fun task => (task.report? now).isNone).map Task.begin
      fetches := race.fetches ++ race.tasks.filterMap Task.fetch?
      dropped := race.dropped ++ race.tasks.filterMap Task.dropped? }

/-- Looks at the tasks until none ends any more at an instant. -/
def settle (race : Race) (now : Nat) : Race :=
  if (race.round now).tasks.length < race.tasks.length then (race.round now).settle now
  else race.round now
termination_by race.tasks.length

/-- Follows a race through instants in rising order, up to the one at which it is
over, if there is one. -/
def follow (race : Race) : List Nat → Race × Option Nat
  | [] => (race, none)
  | now :: later =>
    if (race.settle now).tasks.isEmpty then (race.settle now, some now)
    else (race.settle now).follow later

/-- The instants at which something happens in a race: its beginning, and those at
which queries end. -/
def instants (race : Race) : List Nat :=
  (0 :: race.tasks.filterMap (·.behaviour.endsAfter?)).mergeSort

end Race

end Probe

end PrinterRoster
