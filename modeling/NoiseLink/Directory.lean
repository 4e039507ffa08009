import NoiseLink.SystemError
import NoiseLink.Text.Utf8

namespace NoiseLink

abbrev Location := List Bytes

inductive Device where
  | sink
  | console
  | detached
  deriving DecidableEq, Repr

structure Directory where
  files : List (Location × Bytes)
  devices : List (Location × Device)
  folders : List Location
  links : List (Location × Location)
  /-- Directories in which no file can be made, and what the system says to an attempt. -/
  closed : List (Location × SystemError)
  /-- Directories that are asked for names of any length. -/
  boundless : List Location
  home : Location

namespace Directory

inductive Found where
  | file (content : Bytes)
  | device (kind : Device)
  | directory
  | nothing
  deriving DecidableEq, Repr

def get (d : Directory) (loc : Location) : Found :=
  match d.files.find? (·.1 = loc), d.devices.lookup loc with
  | some (_, content), _ => .file content
  | none, some kind => .device kind
  | none, none =>
    let known := d.files.map (·.1) ++ d.devices.map (·.1) ++ d.home :: d.folders
    if loc.isEmpty || known.any loc.isPrefixOf then .directory else .nothing

def slash : UInt8 := 47
def here : Bytes := [46]
def above : Bytes := [46, 46]

def names (path : Bytes) : List Bytes := (path.splitOn slash).filter (· ≠ [])

def dropEnd : Bytes → Bytes
  | 46 :: 47 :: rest => dropEnd rest
  | 47 :: rest => dropEnd rest
  | rest => rest

def stem (path : Bytes) : Bytes := (dropEnd path.reverse).reverse

def isAbsolute (path : Bytes) : Bool := path.head? = some slash

def longestName : Nat := 255
def longestPath : Nat := 4095

/-- One name further; what lies above the root is the root. -/
def enter (d : Directory) (loc : Location) (name : Bytes) : Except SystemError Location :=
  if name = here then .ok loc
  else if name = above then .ok loc.dropLast
  else if name.length > longestName && !d.boundless.any (·.isPrefixOf loc) then .error .nameTooLong
  else
    let next := loc ++ [name]
    .ok ((d.links.lookup next).getD next)

def walk (d : Directory) : Location → List Bytes → Except SystemError Location
  | loc, [] => .ok loc
  | loc, name :: rest => do
    let next ← d.enter loc name
    match d.get next with
    | .directory => d.walk next rest
    | .file _ | .device _ => throw .notADirectory
    | .nothing => throw .noSuchFile

/-- Where a file is that is opened for appending; it is made if it is not there. -/
def append (d : Directory) (path : Bytes) : Except SystemError Location := do
  if path.contains 0 then throw .zeroInName
  if path.isEmpty then throw .noSuchFile
  if path.length > longestPath then throw .nameTooLong
  let ns := names path
  let parent ← d.walk (if isAbsolute path then [] else d.home) ns.dropLast
  let some name := ns.getLast? | throw .isADirectory
  if name = here || name = above || path.getLast? = some slash then throw .isADirectory
  let place ← d.enter parent name
  match d.get place, d.closed.find? fun c => c.1.isPrefixOf parent with
  | .directory, _ => throw .isADirectory
  | .device .detached, _ => throw .noSuchDevice
  | .nothing, some (_, e) => throw e
  | _, _ => return place

def absolute (d : Directory) (path : Bytes) : Bytes :=
  if isAbsolute path then path else d.home.flatMap (slash :: ·) ++ slash :: path

def read? (d : Directory) (path : Bytes) : Option Bytes :=
  match d.append (d.absolute path) with
  | .ok place =>
    match d.get place with
    | .file content => some content
    | _ => none
  | .error _ => none

def ofNames (s : String) : Location := names (Text.utf8 s.toList)

end Directory
end NoiseLink
