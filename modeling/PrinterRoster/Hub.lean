import PrinterRoster.Printer
import PrinterRoster.Table

/-! What a source of printers keeps: who listens to it, and which printers are
visible now. Operations return what they tell to whom. A listener is told what
changes while it listens, and when it starts to listen everything visible. -/
namespace PrinterRoster

abbrev Listener := Nat

inductive Sighting
  | found (printer : Printer)
  | lost (printer : Printer)
deriving DecidableEq

structure Delivery where
  listener : Listener
  sighting : Sighting
deriving DecidableEq

structure Hub where
  listeners : List Listener
  visible : Table String Printer

namespace Hub

def empty : Hub := ⟨[], Table.empty⟩

instance : Inhabited Hub := ⟨empty⟩

def hasListeners (hub : Hub) : Bool := !hub.listeners.isEmpty

def toAll (hub : Hub) (sighting : Sighting) : List Delivery :=
  hub.listeners.map fun listener => ⟨listener, sighting⟩

/-- What changed, the deliveries, and whether the source should begin or end its
search because the first listener came or the last one went. -/
structure Registration where
  hub : Hub
  deliveries : List Delivery
  edge : Bool

/-- Registers a listener and tells it what is visible, unless it listens already. -/
def addListener (hub : Hub) (listener : Listener) : Registration :=
  if hub.listeners.contains listener then ⟨hub, [], false⟩
  else
    ⟨{ hub with listeners := hub.listeners ++ [listener] },
      hub.visible.values.map fun printer => ⟨listener, .found printer⟩, hub.listeners.isEmpty⟩

def removeListener (hub : Hub) (listener : Listener) : Registration :=
  let left := hub.listeners.filter (· ≠ listener)
  ⟨{ hub with listeners := left }, [], hub.listeners.contains listener && left.isEmpty⟩

def printerFound (hub : Hub) (printer : Printer) : Hub × List Delivery :=
  if hub.visible.get? printer.path = some printer then (hub, [])
  else
    ({ hub with visible := hub.visible.insert printer.path printer }, hub.toAll (.found printer))

def printerLost (hub : Hub) (path : String) : Hub × List Delivery :=
  match hub.visible.get? path with
  | none => (hub, [])
  | some printer => ({ hub with visible := hub.visible.erase path }, hub.toAll (.lost printer))

def allPrintersLost (hub : Hub) : Hub × List Delivery :=
  ({ hub with visible := Table.empty },
    hub.visible.values.flatMap fun printer => hub.toAll (.lost printer))

/-- Forgets every visible printer and tells it to one listener only, the last
one, which has left. -/
def printersLostTo (hub : Hub) (listener : Listener) : Hub × List Delivery :=
  ({ hub with visible := Table.empty },
    hub.visible.values.map fun printer => ⟨listener, .lost printer⟩)

@[simp] theorem listeners_printerFound (hub : Hub) (printer : Printer) :
    (hub.printerFound printer).1.listeners = hub.listeners := by
  unfold printerFound; split <;> rfl

@[simp] theorem listeners_printerLost (hub : Hub) (path : String) :
    (hub.printerLost path).1.listeners = hub.listeners := by
  unfold printerLost; split <;> rfl

/-- After a report, its printer and no other is visible at its path. -/
theorem get?_printerFound (hub : Hub) (printer : Printer) (path : String) :
    (hub.printerFound printer).1.visible.get? path =
      if path = printer.path then some printer else hub.visible.get? path := by
  unfold printerFound
  split
  · rename_i same
    split
    · subst path; exact same
    · rfl
  · exact Table.get?_insert ..

theorem get?_printerLost (hub : Hub) (path other : String) :
    (hub.printerLost path).1.visible.get? other =
      if other = path then none else hub.visible.get? other := by
  unfold printerLost
  split
  · rename_i absent
    split
    · subst other; exact absent
    · rfl
  · exact Table.get?_erase ..

end Hub

end PrinterRoster
