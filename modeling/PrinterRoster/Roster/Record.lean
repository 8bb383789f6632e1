import PrinterRoster.Capabilities
import PrinterRoster.Printer
import PrinterRoster.Uri

/-! What a session knows of one printer, and what it tells its subscribers. A record
has where the printer was sighted last and when, whether it is there now, its latest
answer, whether an answer is awaited and whether subscribers show it. They are told of
printers to show or to update, and of printers to show no longer. -/
namespace PrinterRoster

inductive PrinterStatus
  | idle
  | unavailable
deriving DecidableEq, Inhabited

def PrinterStatus.name : PrinterStatus → String
  | idle => "Idle"
  | unavailable => "Unavailable"

structure PrinterInfo where
  id : PrinterId
  name : String
  description : String
  location : Option String
  status : PrinterStatus
  capabilities : Option Capabilities
deriving DecidableEq, Inhabited

inductive RosterEvent
  | added (info : PrinterInfo)
  | removed (ids : List PrinterId)
deriving DecidableEq

structure Record where
  id : PrinterId
  printer : Printer
  capabilities : Option Capabilities
  lastSeen : Nat
  isFound : Bool
  refreshing : Bool
  published : Bool
deriving DecidableEq

namespace Record

def ofPrinter (printer : Printer) (now : Nat) : Record :=
  ⟨printer.id, printer, none, now, false, false, false⟩

def found (record : Record) (printer : Printer) (now : Nat) : Record :=
  { record with printer, lastSeen := now, isFound := true }

/-- The printer is gone. Its answer is kept, to be shown until the record expires. -/
def notFound (record : Record) : Record := { record with isFound := false }

def isExpired (record : Record) (now window : Nat) : Bool :=
  !record.isFound && window ≤ now - record.lastSeen

def beginRefresh (record : Record) : Record := { record with refreshing := true }

def endRefresh (record : Record) : Record := { record with refreshing := false }

def isUnsupported (record : Record) : Bool := record.capabilities.any fun answer => !answer.isSupported

def status (record : Record) : PrinterStatus :=
  if record.isFound && record.capabilities.any (fun answer => !answer.isError) then .idle
  else .unavailable

def description (record : Record) : String :=
  ((record.capabilities.bind (·.makeAndModel)).or (Uri.hostOf? record.printer.path)).getD
    record.printer.path

def info? (record : Record) : Option PrinterInfo :=
  if record.isUnsupported then none
  else
    some
      { id := record.id
        name := record.printer.name
        description := record.description
        location := record.printer.location.or (record.capabilities.bind (·.location))
        status := record.status
        capabilities := record.capabilities }

end Record

end PrinterRoster
