import PrinterRoster.Failure
import PrinterRoster.Probe.Race
import PrinterRoster.Uri

/-! Looking for a printer at a host. All candidate URIs are queried at once. The
first that answers with capabilities is the printer, and the queries that are
then still open are dropped; when all have ended without such an answer there is
no printer. -/
namespace PrinterRoster

def Probe.hostname? (text : String) : Except Failure String :=
  let host := Text.trimmed text
  if host.isEmpty then .error (.invalidHostname text) else .ok host

/-- A run in view of a caller who waits for a limited time. -/
structure Probe where
  fetches : List Probe.Fetch
  outcome : Option ProbeOutcome
  elapsed : Nat
  dropped : List String
  abandoned : List String

namespace Probe

def requests (probe : Probe) : List String := probe.fetches.map (·.uri)

def ofRace (patience : Nat) : Race × Option Nat → Probe
  | (race, some elapsed) =>
    ⟨race.fetches, some (race.outcome.getD .notFound), elapsed, race.dropped, []⟩
  | (race, none) => ⟨race.fetches, none, patience, [], race.tasks.map (·.uri)⟩

def run (templates : List EndpointTemplate) (behave : String → Behaviour) (patience : Nat)
    (hostname : String) : Except Failure Probe :=
  (hostname? hostname).map fun host =>
    let race := Race.start host (EndpointTemplate.candidates templates host) behave
    ofRace patience (race.follow (race.instants.filter (· < patience)))

end Probe

end PrinterRoster
