import PrinterRoster.Connectivity
import PrinterRoster.Hub
import PrinterRoster.Manual.Saved
import PrinterRoster.Probe

/-! The source of printers that a user added by hand. Nothing on the network
announces them. So while somebody listens a watcher follows the connectivity
signal: each time it looks and the network is up it queries every saved printer,
and those that answer are visible; when the network is down none is. -/
namespace PrinterRoster

structure SavedQuery where
  number : Nat
  printer : Printer
deriving DecidableEq

/-- The fetch that a query makes. What is cached of the printer will not do. -/
def SavedQuery.fetch (query : SavedQuery) : Probe.Fetch := ⟨query.printer.path, true⟩

/-- What the watcher does. A version is that of the signal it looked at last;
there is none where there is no signal to follow. -/
inductive Watcher
  | absent
  | due
  | refreshing (seen : Option Nat) (isOpen : List SavedQuery)
  | waiting (seen : Nat)
  | done
deriving DecidableEq

structure ManualSource where
  saved : List SavedPrinter
  hub : Hub
  file : StoredFile
  watcher : Watcher

namespace ManualSource

def openFile (file : StoredFile) : ManualSource := ⟨SavedPrinter.load file, .empty, file, .absent⟩

def persist (source : ManualSource) : ManualSource :=
  { source with file := source.file.write (SavedPrinter.fileText source.saved) }

def printerFound (source : ManualSource) (printer : Printer) : ManualSource × List Delivery :=
  let (hub, deliveries) := source.hub.printerFound printer
  ({ source with hub }, deliveries)

def add (source : ManualSource) (outcome : ProbeOutcome) (now : Stamp) :
    ManualSource × List Delivery :=
  match outcome with
  | .found printer true =>
    (persist { source with saved := SavedPrinter.save source.saved printer now }).printerFound printer
  | _ => (source, [])

def remove (source : ManualSource) (id : PrinterId) : ManualSource × List Delivery × Bool :=
  match SavedPrinter.find? source.saved id with
  | none => (source, [], false)
  | some removed =>
    let source := persist { source with saved := SavedPrinter.remove source.saved id }
    let (hub, deliveries) := source.hub.printerLost removed.printer.path
    ({ source with hub }, deliveries, true)

def start (source : ManualSource) (listener : Listener) : ManualSource × List Delivery :=
  let registration := source.hub.addListener listener
  ({ source with
      hub := registration.hub
      watcher := if registration.edge then .due else source.watcher },
    registration.deliveries)

/-- Unregisters a listener. With the last one the watcher goes, together with its
open queries, and nothing is visible any more. -/
def stop (source : ManualSource) (listener : Listener) : ManualSource × List Delivery :=
  let registration := source.hub.removeListener listener
  if registration.edge then
    let (hub, deliveries) := registration.hub.printersLostTo listener
    ({ source with hub, watcher := .absent }, deliveries)
  else ({ source with hub := registration.hub }, [])

def afterRefresh : (seen : Option Nat) → Watcher
  | some seen => .waiting seen
  | none => .done

def refresh (source : ManualSource) (seen : Option Nat) : ManualSource :=
  let queries := source.saved.mapIdx fun number saved => ⟨number, saved.printer⟩
  { source with watcher := if queries.isEmpty then afterRefresh seen else .refreshing seen queries }

/-- Looks at the signal: nobody's signal counts as up. -/
def attend (source : ManualSource) : Option Signal → ManualSource × List Delivery
  | none => (source.refresh none, [])
  | some signal =>
    if signal.online then (source.refresh (some signal.version), [])
    else
      let (hub, deliveries) := source.hub.allPrintersLost
      ({ source with hub, watcher := .waiting signal.version }, deliveries)

def isDue (source : ManualSource) (signal : Option Signal) : Bool :=
  match source.watcher, signal with
  | .due, _ => true
  | .waiting seen, some signal => signal.hasNews seen || !signal.isOpen
  | _, _ => false

/-- The watcher's turn. It looks at a signal that is new to it, and is done when
nobody may set the signal any more. -/
def look (source : ManualSource) (signal : Option Signal) : ManualSource × List Delivery :=
  match source.watcher, signal with
  | .due, signal => source.attend signal
  | .waiting seen, some signal =>
    if signal.hasNews seen then source.attend (some signal)
    else if signal.isOpen then (source, [])
    else ({ source with watcher := .done }, [])
  | _, _ => (source, [])

def queryEnded (source : ManualSource) (number : Nat) (answered : Bool) :
    ManualSource × List Delivery :=
  match source.watcher with
  | .refreshing seen isOpen =>
    match isOpen.find? (·.number = number) with
    | none => (source, [])
    | some query =>
      let left := isOpen.filter (·.number ≠ number)
      let source := { source with
        watcher := if left.isEmpty then afterRefresh seen else .refreshing seen left }
      if answered then source.printerFound query.printer else (source, [])
  | _ => (source, [])

def openQueries (source : ManualSource) : List SavedQuery :=
  match source.watcher with
  | .refreshing _ isOpen => isOpen
  | _ => []

end ManualSource

end PrinterRoster
