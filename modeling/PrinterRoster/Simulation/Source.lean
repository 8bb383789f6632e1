import PrinterRoster.Hub

/-! Staged sources of printers: what they see is set from outside, and so is how
they take being started and stopped. A staged source has one listener, the
session. -/
namespace PrinterRoster.Simulation

inductive StartManner
  | works
  | fails
  | breaksDown
deriving DecidableEq, Inhabited

inductive StopManner
  | works
  | loses
  | breaksDown
deriving DecidableEq, Inhabited

structure StagedSource where
  visible : List Printer
  onStart : StartManner
  onStop : StopManner
  isHeard : Bool
  starts : Nat
  stops : Nat

structure StagedOutcome where
  source : StagedSource
  sightings : List Sighting
  broke : Bool

namespace StagedSource

def fresh (visible : List Printer) (onStart : StartManner) (onStop : StopManner) : StagedSource :=
  ⟨visible, onStart, onStop, false, 0, 0⟩

instance : Inhabited StagedSource := ⟨fresh [] .works .works⟩

def start (source : StagedSource) : StagedOutcome :=
  let counted := { source with starts := source.starts + 1 }
  match source.onStart with
  | .works =>
    if source.isHeard then ⟨counted, [], false⟩
    else ⟨{ counted with isHeard := true }, source.visible.map .found, false⟩
  | .fails => ⟨counted, [], false⟩
  | .breaksDown => ⟨counted, [], true⟩

def stop (source : StagedSource) : StagedOutcome :=
  let counted := { source with stops := source.stops + 1, isHeard := false }
  match source.onStop with
  | .works => ⟨counted, [], false⟩
  | .loses =>
    if source.isHeard then ⟨{ counted with visible := [] }, source.visible.map .lost, false⟩
    else ⟨counted, [], false⟩
  | .breaksDown => ⟨counted, [], true⟩

def appear (source : StagedSource) (printer : Printer) : StagedSource × List Sighting :=
  ({ source with visible := source.visible ++ [printer] },
    if source.isHeard then [.found printer] else [])

def vanish (source : StagedSource) (path : String) : StagedSource × List Sighting :=
  match source.visible.find? (·.path = path) with
  | none => (source, [])
  | some printer =>
    ({ source with visible := source.visible.eraseP (·.path = path) },
      if source.isHeard then [.lost printer] else [])

end StagedSource

end PrinterRoster.Simulation
