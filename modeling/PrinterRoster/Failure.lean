import PrinterRoster.Storage
import PrinterRoster.Text.Numeral

/-! What can go wrong, and the words for it. A message that shows a blank or odd
text has it in quotation marks, where what does not print is written by its code
point. -/
namespace PrinterRoster.Text.Quoted

/-- Characters that a message can show as they are. Of the blanks only the
space prints. -/
def prints (c : Char) : Bool :=
  32 ≤ c.toNat && c.toNat != 127 &&
    !(128 ≤ c.toNat && c.toNat ≤ 160 || c.toNat == 0xAD || c.toNat == 0x1680 ||
      0x2000 ≤ c.toNat && c.toNat ≤ 0x200F || 0x2028 ≤ c.toNat && c.toNat ≤ 0x202F ||
      0x205F ≤ c.toNat && c.toNat ≤ 0x206F || c.toNat == 0x3000 || c.toNat == 0xFEFF)

def escaped (c : Char) : List Char :=
  if c == '\t' then ['\\', 't']
  else if c == '\n' then ['\\', 'n']
  else if c == '\r' then ['\\', 'r']
  else if c == '\x00' then ['\\', '0']
  else if c == '"' || c == '\\' then ['\\', c]
  else if prints c then [c]
  else ['\\', 'u', '\x7b'] ++ Hex.digits c.toNat ++ ['\x7d']

def encode (text : List Char) : List Char := '"' :: text.flatMap escaped ++ ['"']

def quote (text : String) : String := String.ofList (encode text.toList)

end PrinterRoster.Text.Quoted

namespace PrinterRoster

inductive RequestFault
  | unanswered
  | refused (status : String)
deriving DecidableEq

inductive Failure
  | discovery (detail : String)
  | request (fault : RequestFault)
  | invalidHostname (host : String)
  | invalidUri (uri : String)
  | sessionClosed
  | storage (fault : StorageFault)
  | malformed
deriving DecidableEq

def Failure.kind : Failure → String
  | discovery _ => "Discovery"
  | request _ => "IppRequest"
  | invalidHostname _ => "InvalidHostname"
  | invalidUri _ => "InvalidUri"
  | sessionClosed => "SessionClosed"
  | storage _ => "Io"
  | malformed => "Serialization"

def RequestFault.message : RequestFault → String
  | unanswered => "Get-Printer-Attributes: "
  | refused status => "Get-Printer-Attributes returned status " ++ status

/-- The message of a failure, up to where a description of the details begins. -/
def Failure.message : Failure → String
  | discovery detail => "printer discovery failed: " ++ detail
  | request fault => "IPP request failed: " ++ fault.message
  | invalidHostname host => "invalid hostname: " ++ Text.Quoted.quote host
  | invalidUri uri => "invalid printer URI: '" ++ uri ++ "': "
  | sessionClosed => "discovery session is closed"
  | storage fault => "file I/O error: " ++ fault.message
  | malformed => "serialization error: "

end PrinterRoster
