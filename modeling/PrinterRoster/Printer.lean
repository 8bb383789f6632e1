import PrinterRoster.Json.Reader
import PrinterRoster.Json.Value
import PrinterRoster.Json.Writer

/-! Printers as discovery reports them, and the ids under which they are known.
A printer is identified by its uuid if it has one and by its path otherwise. -/
namespace PrinterRoster

structure PrinterId where
  text : String
deriving DecidableEq, Inhabited

/-- Whether an id is a network address, which another device may take over. -/
def PrinterId.isNetworkAddress (id : PrinterId) : Bool := "ipp".toList.isPrefixOf id.text.toList

structure Printer where
  uuid : Option String
  name : String
  path : String
  location : Option String
deriving DecidableEq, Inhabited

namespace Printer

/-- A newly reported printer. An empty uuid or location counts as none. -/
def report (uuid : Option String) (name path : String) (location : Option String) : Printer :=
  ⟨uuid.filter (· ≠ ""), name, path, location.filter (· ≠ "")⟩

theorem report_eq {uuid : Option String} (shows : uuid ≠ some "") (name path : String)
    (location : Option String) :
    report uuid name path location = ⟨uuid, name, path, location.filter (· ≠ "")⟩ := by
  have kept : uuid.filter (· ≠ "") = uuid := by
    cases uuid with
    | none => rfl
    | some text =>
      have shown : text ≠ "" := fun empty => shows (congrArg some empty)
      rw [Option.filter_some, if_pos (decide_eq_true shown)]
  rw [report, kept]

def uri (printer : Printer) : String := printer.uuid.getD printer.path

def id (printer : Printer) : PrinterId := ⟨printer.uri⟩

def summary (printer : Printer) : String :=
  printer.name ++ " <" ++ printer.path ++ ">" ++ (printer.uuid.map (" " ++ ·)).getD ""

def toJson (printer : Printer) : Json :=
  .record [("uuid", .optionalText printer.uuid), ("name", .text printer.name),
    ("path", .text printer.path), ("location", .optionalText printer.location)]

def ofJson? (value : Json) : Option Printer :=
  match value.fields? false ["uuid", "name", "path", "location"] with
  | some [uuid, name, path, location] => do
    let uuid ← Json.defaulted? none Json.asOptionalText? uuid
    let name ← Json.required? Json.asText? name
    let path ← Json.required? Json.asText? path
    let location ← Json.defaulted? none Json.asOptionalText? location
    return ⟨uuid, name, path, location⟩
  | _ => none

def parse? (text : String) : Option Printer := (Json.parse? text).bind ofJson?

end Printer

end PrinterRoster
