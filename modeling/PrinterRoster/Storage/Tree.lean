import PrinterRoster.Storage.Path
import Std.Data.HashMap

/-! Trees of stored files. A path is walked name by name from the root or from
the working directory; what it then stands for depends on whether it is read or
written. Of the directories around the working directory only those that every
host has are known, and whatever else is asked for there is not there. -/
namespace PrinterRoster

namespace FileTree

/-- Where names begin: at the root, or so many levels above the working directory. -/
inductive Anchor
  | root
  | above (levels : Nat)
deriving DecidableEq, Hashable

structure Place where
  anchor : Anchor
  names : List String
deriving DecidableEq, Hashable

namespace Place

def root : Place := ⟨.root, []⟩

def working : Place := ⟨.above 0, []⟩

def child (place : Place) (name : String) : Place := ⟨place.anchor, name :: place.names⟩

def parent (place : Place) : Place :=
  match place.anchor, place.names with
  | anchor, _ :: outer => ⟨anchor, outer⟩
  | .root, [] => root
  | .above levels, [] => ⟨.above (levels + 1), []⟩

def systemNames : List String :=
  ["bin", "dev", "etc", "home", "lib", "mnt", "opt", "proc", "root", "run", "sbin", "srv", "sys",
    "tmp", "usr", "var"]

def isGiven (place : Place) : Bool :=
  match place.anchor, place.names with
  | _, [] => true
  | .root, [name] => systemNames.contains name
  | _, _ => false

end Place

end FileTree

structure FileTree where
  entries : Std.HashMap FileTree.Place StoredFile

namespace FileTree

def ofList (files : List (String × StoredFile)) : FileTree :=
  ⟨Std.HashMap.ofList (files.map fun file => (Place.working.child file.1, file.2))⟩

def file (tree : FileTree) (place : Place) : StoredFile :=
  if place.isGiven then .directory else tree.entries.getD place .vacant

def put (tree : FileTree) (place : Place) (file : StoredFile) : FileTree :=
  ⟨tree.entries.insert place file⟩

def enter (tree : FileTree) (place : Place) (name : String) : Except StorageFault Place :=
  if name = "." then .ok place
  else if name = ".." then .ok place.parent
  else if Path.isTooLong name then .error .nameTooLong
  else
    match tree.file (place.child name) with
    | .directory => .ok (place.child name)
    | .vacant => .error .absent
    | .text _ | .bytes => .error .notDirectory
    | .unreachable fault => .error fault

def walk (tree : FileTree) (place : Place) (names : List String) : Except StorageFault Place :=
  names.foldlM tree.enter place

inductive Target
  | directory
  | entry (place : Place) (name : String)

def start (path : Path) : Place := if path.isAbsolute then .root else .working

def target (tree : FileTree) (path : Path) : Except StorageFault Target :=
  match path.names.getLast? with
  | none => .ok .directory
  | some last =>
    if Path.isDots last then (tree.walk (start path) path.names).map fun _ => .directory
    else (tree.walk (start path) path.names.dropLast).map (.entry · last)

def read (tree : FileTree) (path : Path) : StoredFile :=
  match tree.target path with
  | .error fault => .unreachable fault
  | .ok .directory => .directory
  | .ok (.entry place name) =>
    let file := tree.file (place.child name)
    if Path.isTooLong name then .unreachable .nameTooLong
    else if path.endsInSlash && file.isPlain then .unreachable .notDirectory
    else file

/-- The place that is written through a path, where a file can be made if there
is none. No file is made where the path says that it means a directory. -/
def placeToWrite (tree : FileTree) (path : Path) : Except StorageFault Place :=
  match tree.target path with
  | .error fault => .error fault
  | .ok .directory => .error .isDirectory
  | .ok (.entry place name) =>
    if path.endsInSlash then .error .isDirectory
    else if Path.isTooLong name then .error .nameTooLong
    else .ok (place.child name)

def toRead (tree : FileTree) (text : String) : StoredFile :=
  match Path.parse text with
  | .error fault => .unreachable fault
  | .ok path => tree.read path

def toWrite (tree : FileTree) (text : String) : StoredFile :=
  match (Path.parse text).bind tree.placeToWrite with
  | .error fault => .unreachable fault
  | .ok place => tree.file place

def update (tree : FileTree) (text : String) (change : StoredFile → StoredFile) : FileTree :=
  match (Path.parse text).bind tree.placeToWrite with
  | .error _ => tree
  | .ok place => tree.put place (change (tree.file place))

/-- Follows names from a directory, and makes each directory on the way that is
missing. This ends where the way leads no further. -/
def makeAlong (tree : FileTree) (place : Place) : List String → FileTree
  | [] => tree
  | name :: names =>
    match tree.enter place name with
    | .ok next => makeAlong tree next names
    | .error .absent =>
      makeAlong (tree.put (place.child name) .directory) (place.child name) names
    | .error _ => tree

def makeDirectories (tree : FileTree) (text : String) : FileTree :=
  match Path.parse text with
  | .error _ => tree
  | .ok path => tree.makeAlong (start path) path.namesToMake

def hasDirectory (tree : FileTree) (text : String) : Bool := tree.toRead text = .directory

end FileTree

end PrinterRoster
