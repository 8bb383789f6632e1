import PrinterRoster.Printer
import PrinterRoster.Stamp
import PrinterRoster.Storage

/-! Printers that a user added by host name, with the time of adding. They are
kept in a file as an indented JSON array of records; a file that holds anything
else counts as empty. -/
namespace PrinterRoster

structure SavedPrinter where
  printer : Printer
  addedAt : Stamp
deriving DecidableEq, Inhabited

namespace SavedPrinter

def toJson (saved : SavedPrinter) : Json :=
  .record [("printer", saved.printer.toJson), ("added_at", .text saved.addedAt.text)]

def ofJson? (value : Json) : Option SavedPrinter :=
  match value.fields? false ["printer", "added_at"] with
  | some [printer, addedAt] => do
    let printer ← Json.required? Printer.ofJson? printer
    let addedAt ← Json.required? (fun value => value.asText?.bind Stamp.parse?) addedAt
    return ⟨printer, addedAt⟩
  | _ => none

def fileText (saved : List SavedPrinter) : String := (Json.array (saved.map toJson)).pretty

def parse? (text : String) : Option (List SavedPrinter) :=
  (Json.parse? text).bind (Json.asList? ofJson?)

def load (file : StoredFile) : List SavedPrinter := (file.content?.bind parse?).getD []

/-- Adds a printer at the end. Others with its id or at its path give way to it. -/
def save (saved : List SavedPrinter) (printer : Printer) (now : Stamp) : List SavedPrinter :=
  (saved.filter fun other => other.printer.id ≠ printer.id && other.printer.path ≠ printer.path) ++
    [⟨printer, now⟩]

def find? (saved : List SavedPrinter) (id : PrinterId) : Option SavedPrinter :=
  saved.find? fun other => other.printer.id = id

def remove (saved : List SavedPrinter) (id : PrinterId) : List SavedPrinter :=
  saved.eraseP fun other => other.printer.id = id

end SavedPrinter

end PrinterRoster
