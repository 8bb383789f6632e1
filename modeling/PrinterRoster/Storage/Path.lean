import PrinterRoster.Storage
import PrinterRoster.Text.Fields

/-! Paths. A path is a row of names that begins at the root or in the working
directory. The names `.` and `..` stand for a directory itself and for the one
that holds it. A text that is empty, too long or has a NUL in it leads nowhere. -/
namespace PrinterRoster

structure Path where
  isAbsolute : Bool
  names : List String
  endsInSlash : Bool
deriving DecidableEq

namespace Path

def join (base part : String) : String :=
  if part.toList.head? = some '/' || base.isEmpty then part
  else if base.toList.getLast? = some '/' then base ++ part
  else base ++ "/" ++ part

def sizeLimit : Nat := 4095

def nameSizeLimit : Nat := 255

def isTooLong (name : String) : Bool := name.utf8ByteSize > nameSizeLimit

def isDots (name : String) : Bool := name = "." || name = ".."

def parse (text : String) : Except StorageFault Path :=
  let characters := text.toList
  if characters.contains (Char.ofNat 0) then .error .nulInName
  else if characters.isEmpty then .error .absent
  else if text.utf8ByteSize > sizeLimit then .error .nameTooLong
  else
    .ok
      { isAbsolute := characters.head? = some '/'
        names := ((Text.fields (· == '/') characters).filter (!·.isEmpty)).map String.ofList
        endsInSlash := characters.getLast? = some '/' }

/-- The names to follow when the directories on a path are made. A path that ends
in the name of the directory itself only names one that is there already. -/
def namesToMake (path : Path) : List String :=
  let names := path.names.filter (· ≠ ".")
  if path.names.getLast? = some "." then names.dropLast else names

end Path

end PrinterRoster
