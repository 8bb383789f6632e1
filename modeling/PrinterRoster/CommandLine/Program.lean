import PrinterRoster.Config
import PrinterRoster.CapabilityCache
import PrinterRoster.CommandLine.Arguments
import PrinterRoster.CommandLine.Discover

/-! A whole run of the program: from the words of its command line, and the host
on which it runs, to what it prints and the code with which it ends. -/
namespace PrinterRoster.CommandLine

structure Host where
  file : String → StoredFile
  exchange : Ipp.Exchange
  user : UserDirectories
  clock : Stamp

structure Transcript where
  exitCode : Nat
  output : String
  errors : String
  elapsed : Nat
  directories : List String
  written : List (String × String)

namespace Transcript

def ofFailure (failure : Failure) (output : String) : Transcript :=
  ⟨1, output, "Error: " ++ failure.kind, 0, [], []⟩

end Transcript

def settings (host : Host) (config : Option String) : Except Failure Config :=
  match config with
  | some path => Config.load (host.file path)
  | none => .ok {}

def probe (exchange : Ipp.Exchange) (templates : List EndpointTemplate) (hostname : String) :
    Except Failure ProbeOutcome :=
  (Probe.run templates (fun uri => .answers 0 (Ipp.query exchange uri)) Discovery.patience
    hostname).map fun probe => probe.outcome.getD .notFound

def knownGoodName : String := "knowngood.json"

def manualName : String := "manual.json"

def listPath (host : Host) (config : Config) (name : String) : String :=
  Path.join (CacheDirectory.resolve config host.user) name

def discover (host : Host) (config : Config) (seconds : Nat) (hosts : List String) : Transcript :=
  let knownGoodPath := listPath host config knownGoodName
  let manualPath := listPath host config manualName
  let discovery := Discovery.run
    { config
      online := false
      places := Table.empty
      search := ⟨.fresh [] .works .works, false, none⟩
      timeline := []
      knownGoodFile := host.file knownGoodPath
      manualFile := host.file manualPath
      clock := host.clock }
    seconds hosts
  let knownGood := discovery.world.knownGoodFile.bind (·.content?)
  let manual := (discovery.world.manual? 0).bind (·.file.content?)
  let directories := [CacheDirectory.resolve config host.user]
  let written := (knownGood.map (knownGoodPath, ·)).toList ++ (manual.map (manualPath, ·)).toList
  match discovery.result with
  | .ok () => ⟨0, discovery.printed, "", discovery.world.now, directories, written⟩
  | .error failure => { Transcript.ofFailure failure discovery.printed with directories, written }

def filesRead (host : Host) (invocation : Invocation) : List String :=
  invocation.config.toList ++
    match invocation.command, settings host invocation.config with
    | .discover .., .ok config => [knownGoodName, manualName].map (listPath host config)
    | _, _ => []

def carryOut (host : Host) (invocation : Invocation) : Transcript :=
  match settings host invocation.config with
  | .error failure => .ofFailure failure ""
  | .ok config =>
    match invocation.command with
    | .probe hostname =>
      match probe host.exchange config.endpointTemplates hostname with
      | .ok outcome => ⟨0, probeText hostname outcome, "", 0, [], []⟩
      | .error failure => .ofFailure failure ""
    | .discover seconds hosts => discover host config seconds hosts

def run (host : Host) (words : List String) : Except Refusal Transcript :=
  (parse words).map (carryOut host)

end PrinterRoster.CommandLine
