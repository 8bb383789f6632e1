import PrinterRoster.Text.Numeral

/-! Uniform resource identifiers, as far as a printer connection needs them: the
host, the port and the path. Three forms are read: a path alone, an authority
alone, and a scheme with an authority and perhaps a path. Query and fragment
are checked or skipped, and not kept. A template of an endpoint names the scheme,
the port and the resource path at which a print service may listen, and makes the
URI of that at a host. -/
namespace PrinterRoster
open Text

structure Uri where
  authority : List Char
  path : List Char
deriving DecidableEq

namespace Uri

def sizeLimit : Nat := 65534

def schemeSizeLimit : Nat := 64

def isSchemeChar (c : Char) : Bool :=
  c.isAlphanum || c == '+' || c == '-' || c == '.' || c == '~'

def afterSlashes? (text : List Char) : Option (List Char) := [':', '/', '/'].isPrefixOf? text

def afterKnownScheme? (scheme : List Char) (text : List Char) : Option (List Char) :=
  if (text.take scheme.length).map Char.toLower = scheme then afterSlashes? (text.drop scheme.length)
  else none

inductive Start
  | scheme (rest : List Char)
  | noScheme
  | schemeTooLong

def start (text : List Char) : Start :=
  match (afterKnownScheme? "http".toList text).or (afterKnownScheme? "https".toList text) with
  | some rest => .scheme rest
  | none =>
    let scheme := text.takeWhile isSchemeChar
    match if text.length > 3 then afterSlashes? (text.drop scheme.length) else none with
    | none => .noScheme
    | some rest => if scheme.length > schemeSizeLimit then .schemeTooLong else .scheme rest

def isAuthorityChar (c : Char) : Bool :=
  c.isAlphanum || "!$&'()*+,-.;=_~".toList.contains c

structure AuthorityScan where
  colons : Nat := 0
  opened : Bool := false
  closed : Bool := false
  percent : Bool := false
  endsInAt : Bool := false

def AuthorityScan.next? (scan : AuthorityScan) (c : Char) : Option AuthorityScan :=
  let scan := { scan with endsInAt := false }
  if c = ':' then if scan.colons ≥ 8 then none else some { scan with colons := scan.colons + 1 }
  else if c = '[' then
    if scan.percent || scan.opened then none else some { scan with opened := true }
  else if c = ']' then
    if !scan.opened || scan.closed then none
    else some { scan with closed := true, colons := 0, percent := false }
  else if c = '@' then some { scan with endsInAt := true, colons := 0, percent := false }
  else if c = '%' then some { scan with percent := true }
  else if isAuthorityChar c then some scan
  else none

/-- Whether an authority may end here: brackets are closed, at most one colon is
left for the port, and neither a percent sign nor a final at sign is left. -/
def AuthorityScan.mayEnd (scan : AuthorityScan) : Bool :=
  scan.opened == scan.closed && scan.colons ≤ 1 && !scan.endsInAt && !scan.percent

def endsAuthority (c : Char) : Bool := c == '/' || c == '?' || c == '#'

def isAuthority (text : List Char) : Bool :=
  match text.foldlM AuthorityScan.next? ({} : AuthorityScan) with
  | some scan => scan.mayEnd
  | none => false

def isPathChar (c : Char) : Bool :=
  let n := c.toNat
  n == 0x21 || 0x24 ≤ n && n ≤ 0x3B || n == 0x3D || 0x40 ≤ n && n ≤ 0x5F || 0x61 ≤ n && n ≤ 0x7A ||
    n == 0x7C || n == 0x7E || n ≥ 0x80 || c == '"' || c == '\x7b' || c == '\x7d'

def isQueryChar (c : Char) : Bool :=
  let n := c.toNat
  n == 0x21 || 0x24 ≤ n && n ≤ 0x3B || n == 0x3D || 0x3F ≤ n && n ≤ 0x7E || n ≥ 0x80

def pathOf? (text : List Char) : Option (List Char) :=
  let text := text.takeWhile (· != '#')
  let path := text.takeWhile (· != '?')
  let query := (text.drop path.length).drop 1
  if path.all isPathChar && query.all isQueryChar then
    some (if path.isEmpty then ['/'] else path)
  else none

def withoutScheme? (text : List Char) : Option Uri :=
  if isAuthority text && !text.any endsAuthority then some ⟨text, []⟩ else none

def withScheme? (text : List Char) : Option Uri :=
  let authority := text.takeWhile fun c => !endsAuthority c
  if authority.isEmpty || !isAuthority authority then none
  else (pathOf? (text.drop authority.length)).map fun path => ⟨authority, path⟩

def parseChars? (text : List Char) : Option Uri :=
  match text with
  | [] => none
  | ['*'] => some ⟨[], ['*']⟩
  | '/' :: _ => (pathOf? text).map fun path => ⟨[], path⟩
  | [_] => withoutScheme? text
  | _ =>
    match start text with
    | .scheme rest => withScheme? rest
    | .noScheme => withoutScheme? text
    | .schemeTooLong => none

def parse? (text : String) : Option Uri :=
  if text.utf8ByteSize > sizeLimit then none else parseChars? text.toList

def hostAndPort (uri : Uri) : List Char :=
  (uri.authority.reverse.takeWhile (· != '@')).reverse

def host? (uri : Uri) : Option (List Char) :=
  if uri.authority.isEmpty then none
  else if uri.hostAndPort.head? = some '[' then
    some (uri.hostAndPort.takeWhile (· != ']') ++ [']'])
  else some (uri.hostAndPort.takeWhile (· != ':'))

def port? (uri : Uri) : Option Nat :=
  if !uri.authority.contains ':' then none
  else
    let last := (uri.authority.reverse.takeWhile (· != ':')).reverse
    let digits := if last.head? = some '+' then last.drop 1 else last
    (Decimal.value? digits).filter (· < 65536)

def unbracketed (host : List Char) : List Char :=
  ((host.dropWhile (· == '[')).reverse.dropWhile (· == ']')).reverse

def hostOf? (text : String) : Option String := do
  let uri ← parse? text
  let host ← uri.host?
  return String.ofList (unbracketed host)

end Uri

structure EndpointTemplate where
  scheme : String
  port : UInt16
  path : String
deriving DecidableEq, Inhabited

namespace EndpointTemplate

/-- A host as it stands in a URI: an address with colons goes in brackets. -/
def hostText (host : String) : String :=
  if host.toList.contains ':' && host.toList.head? != some '[' then "[" ++ host ++ "]" else host

def rooted (path : String) : String :=
  if path.toList.head? = some '/' then path else "/" ++ path

def uriFor (template : EndpointTemplate) (host : String) : String :=
  template.scheme ++ "://" ++ hostText host ++ ":" ++ Decimal.text template.port.toNat ++
    rooted template.path

def usual : List EndpointTemplate :=
  [⟨"ipp", 631, "/ipp/print"⟩, ⟨"ipp", 80, "/ipp/print"⟩, ⟨"ipp", 631, "/ipp/printer"⟩,
    ⟨"ipp", 631, "/ipp"⟩, ⟨"ipp", 631, "/"⟩]

def candidates (templates : List EndpointTemplate) (host : String) : List String :=
  templates.map (·.uriFor host)

end EndpointTemplate

end PrinterRoster
