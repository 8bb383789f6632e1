import PrinterRoster.Failure
import PrinterRoster.Ipp.Value
import PrinterRoster.Uri

/-! Asking a printer for its attributes. How a request travels is left to an
exchange, which gives the printer's answer if there is one that can be read. -/
namespace PrinterRoster.Ipp

def statusNames : List (Nat × String) :=
  [(0x0000, "SuccessfulOk"),
    (0x0001, "SuccessfulOkIgnoredOrSubstitutedAttributes"),
    (0x0002, "SuccessfulOkConflictingAttributes"),
    (0x0400, "ClientErrorBadRequest"),
    (0x0401, "ClientErrorForbidden"),
    (0x0402, "ClientErrorNotAuthenticated"),
    (0x0403, "ClientErrorNotAuthorized"),
    (0x0404, "ClientErrorNotPossible"),
    (0x0405, "ClientErrorTimeout"),
    (0x0406, "ClientErrorNotFound"),
    (0x0407, "ClientErrorGone"),
    (0x0408, "ClientErrorRequestEntityTooLong"),
    (0x0409, "ClientErrorRequestValueTooLong"),
    (0x040A, "ClientErrorDocumentFormatNotSupported"),
    (0x040B, "ClientErrorAttributesOrValuesNotSupported"),
    (0x040C, "ClientErrorUriSchemeNotSupported"),
    (0x040D, "ClientErrorCharsetNotSupported"),
    (0x040E, "ClientErrorConflictingAttributes"),
    (0x040F, "ClientErrorCompressionNotSupported"),
    (0x0410, "ClientErrorCompressionError"),
    (0x0411, "ClientErrorDocumentFormatError"),
    (0x0412, "ClientErrorDocumentAccessError"),
    (0x0500, "ServerErrorInternalError"),
    (0x0501, "ServerErrorOperationNotSupported"),
    (0x0502, "ServerErrorServiceUnavailable"),
    (0x0503, "ServerErrorVersionNotSupported"),
    (0x0504, "ServerErrorDeviceError"),
    (0x0505, "ServerErrorTemporaryError"),
    (0x0506, "ServerErrorNotAcceptingJobs"),
    (0x0507, "ServerErrorBusy"),
    (0x0508, "ServerErrorJobCanceled"),
    (0x0509, "ServerErrorMultipleDocumentJobsNotSupported"),
    (0x050A, "ServerErrorPrinterIsDeactivated")]

def statusName (code : Nat) : String :=
  ((statusNames.find? fun entry => entry.1 = code).map Prod.snd).getD "UnknownStatusCode"

/-- The codes up to two say that the request was carried out. -/
def isSuccess (code : Nat) : Bool := code ≤ 2

structure Answer where
  status : Nat
  groups : List AttributeGroup

abbrev Exchange := Uri → Option Answer

def Exchange.unreachable : Exchange := fun _ => none

def target (uri : String) : Except Failure Uri :=
  match Uri.parse? uri with
  | some parsed => .ok parsed
  | none => .error (.invalidUri uri)

def printerAttributes (exchange : Exchange) (uri : Uri) : Except Failure Attributes :=
  match exchange uri with
  | none => .error (.request .unanswered)
  | some answer =>
    if isSuccess answer.status then .ok (flatten answer.groups)
    else .error (.request (.refused (statusName answer.status)))

end PrinterRoster.Ipp
