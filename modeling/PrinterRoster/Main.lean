import PrinterRoster.CommandLine.Program

/-! The program. It reads the files that an invocation names, prints what a run
prints and writes what it writes. No network is used. -/
namespace PrinterRoster.Main
open CommandLine

def readStored (path : String) : IO StoredFile := do
  try
    match String.fromUTF8? (← IO.FS.readBinFile path) with
    | some text => return .text text
    | none => return .bytes
  catch fault =>
    match fault with
    | .noFileOrDirectory .. => return .vacant
    | _ => return .directory

def readAll (paths : List String) : IO (String → StoredFile) := do
  let files ← paths.mapM fun path => return (path, ← readStored path)
  return fun path => ((files.find? (·.1 = path)).map Prod.snd).getD .vacant

def host (user : UserDirectories) (file : String → StoredFile) : Host :=
  ⟨file, .unreachable, user, default⟩

def runInvocation (invocation : Invocation) : IO UInt32 := do
  let user : UserDirectories := ⟨← IO.getEnv "XDG_CACHE_HOME", ← IO.getEnv "HOME"⟩
  let settingsHost := host user (← readAll invocation.config.toList)
  let runHost := host user (← readAll (filesRead settingsHost invocation))
  let transcript := carryOut runHost invocation
  IO.sleep (UInt32.ofNat (min transcript.elapsed (UInt32.size - 1)))
  IO.print transcript.output
  for path in transcript.directories do
    try IO.FS.createDirAll path catch _ => pure ()
  for (path, text) in transcript.written do
    try IO.FS.writeFile path text catch _ => pure ()
  unless transcript.errors.isEmpty do
    IO.eprintln transcript.errors
  return UInt32.ofNat transcript.exitCode

end PrinterRoster.Main

def main (words : List String) : IO UInt32 := do
  match PrinterRoster.CommandLine.parse words with
  | .ok invocation => PrinterRoster.Main.runInvocation invocation
  | .error refusal =>
    IO.eprintln refusal.kind
    return UInt32.ofNat refusal.exitCode
