import PrinterRoster.Hub
import PrinterRoster.Mdns.Service

/-! A search for the services of one type. It tells the hub which printers come
and go, and remembers at which path each service was last resolved, because a
service that is withdrawn is known by its full name only. -/
namespace PrinterRoster.Mdns

inductive ServiceEvent
  | resolved (service : Service)
  | removed (fullName : String)
  | noticed
  | searchStarted
  | searchStopped

structure Browser where
  tls : Bool
  paths : Table String String
  hub : Hub
  isOpen : Bool

namespace Browser

def start (tls : Bool) (hub : Hub) : Browser := ⟨tls, Table.empty, hub, true⟩

def handle (browser : Browser) (event : ServiceEvent) : Browser × List Delivery :=
  if browser.isOpen then
    match event with
    | .resolved service =>
      match printer browser.tls service with
      | .error _ => (browser, [])
      | .ok printer =>
        let (hub, deliveries) := browser.hub.printerFound printer
        ({ browser with hub, paths := browser.paths.insert service.fullName printer.path }, deliveries)
    | .removed fullName =>
      match browser.paths.get? fullName with
      | none => (browser, [])
      | some path =>
        let (hub, deliveries) := browser.hub.printerLost path
        ({ browser with hub, paths := browser.paths.erase fullName }, deliveries)
    | .noticed => (browser, [])
    | .searchStarted => (browser, [])
    | .searchStopped => ({ browser with isOpen := false }, [])
  else (browser, [])

end Browser

end PrinterRoster.Mdns
