import PrinterRoster.Failure
import PrinterRoster.Json.Reader
import PrinterRoster.Json.Value
import PrinterRoster.Json.Writer
import PrinterRoster.Storage.Tree
import PrinterRoster.Uri

/-! Settings, and the directory in which the stored lists live. A settings file is
a JSON record; what it leaves out keeps its default, and what it does not know is
skipped. A file that was written from settings reads back as the same settings. -/
namespace PrinterRoster

structure Config where
  expirationMillis : UInt64 := 3000
  knownGoodCapacity : UInt64 := 50
  probeTimeoutSecs : UInt64 := 15
  connectivityPollSecs : UInt64 := 10
  endpointTemplates : List EndpointTemplate := EndpointTemplate.usual
  cacheDir : Option String := none
deriving DecidableEq, Inhabited

def EndpointTemplate.toJson (template : EndpointTemplate) : Json :=
  .record [("scheme", .text template.scheme), ("port", .nat template.port.toNat),
    ("path", .text template.path)]

def EndpointTemplate.ofJson? (value : Json) : Option EndpointTemplate :=
  match value.fields? false ["scheme", "port", "path"] with
  | some [scheme, port, path] => do
    let scheme ← Json.required? Json.asText? scheme
    let port ← Json.required? (Json.asNat? UInt16.size) port
    let path ← Json.required? Json.asText? path
    return ⟨scheme, UInt16.ofNat port, path⟩
  | _ => none

namespace Config

def fieldNames : List String :=
  ["expiration_millis", "known_good_capacity", "probe_timeout_secs", "connectivity_poll_secs",
    "endpoint_templates", "cache_dir"]

def toJson (config : Config) : Json :=
  .record [("expiration_millis", .nat config.expirationMillis.toNat),
    ("known_good_capacity", .nat config.knownGoodCapacity.toNat),
    ("probe_timeout_secs", .nat config.probeTimeoutSecs.toNat),
    ("connectivity_poll_secs", .nat config.connectivityPollSecs.toNat),
    ("endpoint_templates", .array (config.endpointTemplates.map EndpointTemplate.toJson)),
    ("cache_dir", .optionalText config.cacheDir)]

def asWord? (value : Json) : Option UInt64 := (value.asNat? UInt64.size).map UInt64.ofNat

def ofJson? (value : Json) : Option Config :=
  let initial : Config := {}
  match value.fields? true fieldNames with
  | some [expiration, capacity, timeout, poll, templates, directory] => do
    let expiration ← Json.defaulted? initial.expirationMillis asWord? expiration
    let capacity ← Json.defaulted? initial.knownGoodCapacity asWord? capacity
    let timeout ← Json.defaulted? initial.probeTimeoutSecs asWord? timeout
    let poll ← Json.defaulted? initial.connectivityPollSecs asWord? poll
    let templates ←
      Json.defaulted? initial.endpointTemplates (Json.asList? EndpointTemplate.ofJson?) templates
    let directory ← Json.defaulted? initial.cacheDir Json.asOptionalText? directory
    return ⟨expiration, capacity, timeout, poll, templates, directory⟩
  | _ => none

def parse? (text : String) : Option Config := (Json.parse? text).bind ofJson?

def load (file : StoredFile) : Except Failure Config :=
  match file.read with
  | .error fault => .error (.storage fault)
  | .ok text =>
    match parse? text with
    | some config => .ok config
    | none => .error .malformed

def text (config : Config) : String := config.toJson.pretty

def save (config : Config) (file : StoredFile) : Except Failure StoredFile :=
  match file.writeFault? with
  | some fault => .error (.storage fault)
  | none => .ok (file.write config.text)

/-- The network is checked at most once a second. -/
def pollSecs (config : Config) : Nat := max config.connectivityPollSecs.toNat 1

end Config

structure UserDirectories where
  cacheHome : Option String
  home : Option String

namespace CacheDirectory

def name : String := "printscout"

def base (user : UserDirectories) : String :=
  match user.cacheHome, user.home with
  | some directory, _ => directory
  | none, some home => Path.join home ".cache"
  | none, none => "/tmp"

def resolve (config : Config) (user : UserDirectories) : String :=
  config.cacheDir.getD (Path.join (base user) name)

def prepare (tree : FileTree) (config : Config) (user : UserDirectories) : FileTree :=
  tree.makeDirectories (resolve config user)

end CacheDirectory

end PrinterRoster
