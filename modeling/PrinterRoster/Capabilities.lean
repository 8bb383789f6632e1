import PrinterRoster.Ipp.Value
import PrinterRoster.Text.Fields

/-! What a printer says of itself: whether it can be printed to, who it is, and
whether it is healthy. -/
namespace PrinterRoster
open Text

def printableFormats : List String :=
  ["application/pdf", "image/pwg-raster", "image/urf", "image/jpeg"]

inductive PrinterState
  | idle
  | processing
  | stopped
  | unknown
deriving DecidableEq, Inhabited

def PrinterState.ofText (text : String) : PrinterState :=
  let word := String.ofList ((trim text.toList).map Char.toLower)
  if word = "3" || word = "idle" then idle
  else if word = "4" || word = "processing" then processing
  else if word = "5" || word = "stopped" then stopped
  else unknown

structure Capabilities where
  isSupported : Bool
  name : String
  uuid : String
  location : Option String
  makeAndModel : Option String
  state : PrinterState
  stateReasons : List String
  formats : List String
  color : Bool
  duplex : Bool
deriving DecidableEq, Inhabited

namespace Capabilities

def endsInError (reason : String) : Bool := "-error".toList.isSuffixOf reason.toList

def isError (capabilities : Capabilities) : Bool :=
  capabilities.state = .stopped || capabilities.stateReasons.any endsInError

def nonEmpty (text : Option String) : Option String :=
  (text.map trimmed).filter (· ≠ "")

def words (isSeparator : Char → Bool) (text : String) : List String :=
  ((fields isSeparator text.toList).map fun field => String.ofList (trim field)).filter (· ≠ "")

def wordSet (text : Option String) : List String :=
  match text with
  | some text => (words (fun c => c == ',' || c == ';') text).eraseDups
  | none => []

def reasons (text : Option String) : List String :=
  match text with
  | some text => (words (· == ',') text).filter (· ≠ "none")
  | none => []

def isTrueText (text : String) : Bool :=
  text.toList.map Char.toLower = "true".toList || text = "1"

def isTwoSided (word : String) : Bool := "two-sided".toList.isPrefixOf word.toList

/-- Reads the capabilities from a printer's attributes. A printer that names no
format most likely takes one that can be sent. -/
def ofAttributes (attributes : Ipp.Attributes) : Capabilities :=
  let formats := wordSet (attributes.get? "document-format-supported")
  { isSupported := formats.isEmpty || printableFormats.any formats.contains
    name := ((nonEmpty (attributes.get? "printer-name")).or
      (nonEmpty (attributes.get? "printer-info"))).getD ""
    uuid := (nonEmpty (attributes.get? "printer-uuid")).getD ""
    location := nonEmpty (attributes.get? "printer-location")
    makeAndModel := nonEmpty (attributes.get? "printer-make-and-model")
    state := ((attributes.get? "printer-state").map PrinterState.ofText).getD .unknown
    stateReasons := reasons (attributes.get? "printer-state-reasons")
    formats
    color := ((attributes.get? "color-supported").map isTrueText).getD false
    duplex := (wordSet (attributes.get? "sides-supported")).any isTwoSided }

end Capabilities

end PrinterRoster
