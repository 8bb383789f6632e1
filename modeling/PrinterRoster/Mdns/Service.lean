import PrinterRoster.Address
import PrinterRoster.Failure
import PrinterRoster.Printer
import PrinterRoster.Text.Fields
import PrinterRoster.Uuid

/-! Print services that devices announce on the local network, and the printers
they stand for. A service has a label and a type, which together are its full
name, and a record of properties. A subtype is no part of the full name. -/
namespace PrinterRoster.Mdns
open Text

structure Service where
  label : String
  serviceType : String
  addresses : List Address
  port : UInt16
  /-- Property names and values. Case does not tell names apart, and no two
  properties have one name. -/
  properties : List (String × String)

def printType (tls : Bool) : String := if tls then "_ipps._tcp.local." else "_ipp._tcp.local."

def defaultResource : String := "ipp/print"

def isPropertyName (name : String) : Bool := name.toList.all fun c => c.toNat < 128 && c != '='

/-- The lower case of a character, where that is ASCII. It is so of the capitals
`A` to `Z` and, outside ASCII, of the Kelvin sign alone. -/
def lowered (c : Char) : Char := if c = '\u212a' then 'k' else c.toLower

def isSameName (name other : String) : Bool :=
  name.toList.map lowered = other.toList.map lowered

def firstProperties (properties : List (String × String)) : List (String × String) :=
  properties.eraseDupsBy fun property other => isSameName property.1 other.1

def subtypeMark : List Char := "._sub.".toList

def addresses? (text : String) : Option (List Address) :=
  if text.isEmpty then some []
  else (fields (· == ',') text.toList).mapM fun field => Address.parse? (trim field)

namespace Service

def announced? (label serviceType addresses : String) (port : UInt16)
    (properties : List (String × String)) : Option Service :=
  let properties := firstProperties properties
  if properties.all fun property => isPropertyName property.1 then
    (addresses? addresses).map fun found => ⟨label, serviceType, found, port, properties⟩
  else none

/-- The type that a service of a subtype is part of, and any other type as it is. -/
def mainType (service : Service) : String :=
  match afterLast? subtypeMark service.serviceType.toList with
  | some main => String.ofList main
  | none => service.serviceType

def fullName (service : Service) : String := service.label ++ "." ++ service.mainType

def property? (service : Service) (name : String) : Option String :=
  (service.properties.find? fun property => isSameName property.1 name).map Prod.snd

/-- The address that is used: an IPv4 address if there is one. -/
def address? (service : Service) : Option Address :=
  (service.addresses.find? Address.isV4).or service.addresses.head?

end Service

/-- The label of a full name: what stands before the service type, without the
dots between. A full name of another type is taken whole. -/
def instanceName (fullName serviceType : String) : String :=
  match serviceType.toList.isSuffixOf? fullName.toList with
  | some before => String.ofList (before.reverse.dropWhile (· == '.')).reverse
  | none => fullName

def hostText (address : Address) : List Char :=
  if address.isV4 then address.text else '[' :: address.text ++ [']']

def printerUri (tls : Bool) (address : Address) (port : UInt16) (resource : String) : String :=
  String.ofList <|
    (if tls then "ipps" else "ipp").toList ++ "://".toList ++ hostText address ++
      ':' :: Decimal.digits port.toNat ++ '/' :: resource.toList.dropWhile (· == '/')

def printer (tls : Bool) (service : Service) : Except Failure Printer :=
  match service.address? with
  | none => .error (.discovery ("no address for service " ++ service.fullName))
  | some address =>
    let resource := (service.property? "rp").getD defaultResource
    let shownName := instanceName service.fullName (printType tls)
    let name :=
      if shownName.isEmpty then (service.property? "ty").getD (String.ofList address.text)
      else shownName
    .ok (Printer.report ((service.property? "UUID").bind Uuid.normalize) name
      (printerUri tls address service.port resource) (service.property? "note"))

end PrinterRoster.Mdns
