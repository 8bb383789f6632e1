/-! Stored files. A file is seen as what its name stands for at the moment: a
text, bytes that are no text, a directory, nothing yet, or a place where nothing
can be kept because the directory that should hold it is missing or is a file. -/
namespace PrinterRoster

inductive StorageFault
  | absent
  | isDirectory
  | notDirectory
  | notText
  | nameTooLong
  | nulInName
deriving DecidableEq

def StorageFault.message : StorageFault → String
  | absent => "No such file or directory (os error 2)"
  | isDirectory => "Is a directory (os error 21)"
  | notDirectory => "Not a directory (os error 20)"
  | notText => "stream did not contain valid UTF-8"
  | nameTooLong => "File name too long (os error 36)"
  | nulInName => "file name contained an unexpected NUL byte"

inductive StoredFile
  | vacant
  | text (content : String)
  | bytes
  | directory
  | unreachable (fault : StorageFault)
deriving DecidableEq, Inhabited

namespace StoredFile

def read : StoredFile → Except StorageFault String
  | vacant => .error .absent
  | text content => .ok content
  | bytes => .error .notText
  | directory => .error .isDirectory
  | unreachable fault => .error fault

def content? (file : StoredFile) : Option String := file.read.toOption

def canWrite : StoredFile → Bool
  | vacant | text _ | bytes => true
  | directory | unreachable _ => false

def isPlain : StoredFile → Bool
  | text _ | bytes => true
  | _ => false

def write (file : StoredFile) (content : String) : StoredFile :=
  if file.canWrite then text content else file

def writeFault? : StoredFile → Option StorageFault
  | vacant | text _ | bytes => none
  | directory => some .isDirectory
  | unreachable fault => some fault

theorem content?_write {file : StoredFile} (writable : file.canWrite = true) (content : String) :
    (file.write content).content? = some content := by
  simp [write, writable, content?, read, Except.toOption]

end StoredFile

end PrinterRoster
