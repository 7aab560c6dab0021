import TypeForm.CommandLine.Host
import TypeForm.Text.Segments

/-!
# Files as a value

A place is where a file or a directory can be, and a disk says what is at which place. A path is a
route to a place: it is followed name by name, and every name before the last has to lead into a
directory. So a route through a file, or through nothing, fails even if it turns back at once.

There are no empty directories: a directory is there exactly if a file is in it, if it is the
working directory or above it, or if every system has it.
-/
namespace TypeForm

/-- From where the names of a place are followed: the root of the disk, or a directory some levels
above the working directory. -/
inductive Anchor where
  | root
  | above (levels : Nat)
deriving DecidableEq, Repr

/-- The directory around an anchor; around the root there is only the root. -/
def Anchor.up : Anchor → Anchor
  | root => root
  | above levels => above (levels + 1)

/-- Where a file or a directory can be: names, each within the one before, from an anchor. -/
structure Place where
  anchor : Anchor
  names : List String
deriving DecidableEq, Repr

namespace Place

/-- The root of the disk. -/
def root : Place := ⟨.root, []⟩

/-- The working directory. -/
def here : Place := ⟨.above 0, []⟩

/-- The place of a name within a directory. -/
def child (place : Place) (name : String) : Place :=
  { place with names := place.names ++ [name] }

/-- The directory around a place. -/
def parent (place : Place) : Place :=
  if place.names.isEmpty then { place with anchor := place.anchor.up }
  else { place with names := place.names.dropLast }

/-- Whether a place is within a directory, at any depth. -/
def isWithin (place directory : Place) : Bool :=
  place.anchor == directory.anchor && place.names != directory.names
    && directory.names.isPrefixOf place.names

theorem parent_child (place : Place) (name : String) : (place.child name).parent = place := by
  simp [child, parent]

end Place

/-- A path taken apart. Empty names between its slashes mean nothing; a slash at its end, as well
as `.` or `..` there, says that it ends at a directory. -/
structure Route where
  start : Place
  /-- The names that have to lead into directories. -/
  directories : List String
  /-- The name at the end, unless only a directory can be there. -/
  file : Option String
deriving DecidableEq, Repr

namespace Route

/-- The size in bytes from which on a path is too long. -/
def tooLong : Nat := 4096

/-- The size in bytes of the longest possible name. -/
def longestName : Nat := 255

/-- The names between the slashes of a path. -/
def names (path : String) : List String :=
  ((Text.segments path.toList).map String.ofList).filter (· != "")

/-- The names of a route, divided by whether they have to be directories. -/
def divide (names : List String) (endsInSlash : Bool) : List String × Option String :=
  match names.getLast? with
  | none => (names, none)
  | some last =>
    if endsInSlash || last == "." || last == ".." then (names, none)
    else (names.dropLast, some last)

/-- The route that a path describes, from the working directory unless it begins with a slash. -/
def ofPath (path : String) : Except FileError Route :=
  if path.isEmpty then .error .notFound
  else if path.utf8ByteSize ≥ tooLong then .error .nameTooLong
  else
    let start := if path.toList.head? == some '/' then Place.root else Place.here
    let (directories, file) := divide (names path) (path.toList.getLast? == some '/')
    .ok ⟨start, directories, file⟩

end Route

/-- What a file holds: a text, or bytes that are no text. -/
inductive FileContent where
  | text (content : String)
  | binary
deriving DecidableEq, Repr

/-- What is at a place. -/
inductive Item where
  | directory
  | file (content : FileContent)
deriving DecidableEq, Repr

/-- Files and their places. -/
structure Disk where
  files : List (Place × FileContent)
deriving DecidableEq, Repr

namespace Disk

/-- The directories that every system has at its root. -/
def rootDirectories : List Place :=
  ["bin", "boot", "dev", "etc", "home", "lib", "media", "mnt", "opt", "proc", "root", "run",
    "sbin", "srv", "sys", "tmp", "usr", "var"].map Place.root.child

/-- The file that every system has, which is empty and stays so. -/
def nullDevice : Place := (Place.root.child "dev").child "null"

/-- A disk with files in the working directory, by their paths. -/
def ofFiles (files : List (String × FileContent)) : Disk :=
  ⟨files.map fun file => ((Route.names file.1).foldl Place.child Place.here, file.2)⟩

def hasDirectory (disk : Disk) (place : Place) : Bool :=
  place.names.isEmpty || rootDirectories.contains place
    || disk.files.any fun file => file.1.isWithin place

def file? (disk : Disk) (place : Place) : Option FileContent :=
  if place = nullDevice then some (.text "")
  else (disk.files.find? fun file => file.1 == place).map (·.2)

/-- What is at a place, if anything is. -/
def item? (disk : Disk) (place : Place) : Option Item :=
  if disk.hasDirectory place then some .directory else (disk.file? place).map .file

/-- The place of a name within a directory, if the name is short enough. -/
def locate (directory : Place) (name : String) : Except FileError Place :=
  if name.utf8ByteSize > Route.longestName then .error .nameTooLong
  else .ok (directory.child name)

/-- The directory that a name leads into. -/
def enter (disk : Disk) (directory : Place) (name : String) : Except FileError Place :=
  if name = "." then .ok directory
  else if name = ".." then .ok directory.parent
  else do
    let place ← locate directory name
    match disk.item? place with
    | some .directory => .ok place
    | some (.file _) => .error .notDirectory
    | none => .error .notFound

/-- The directory that names lead into, one after the other. -/
def walk (disk : Disk) (start : Place) (names : List String) : Except FileError Place :=
  names.foldlM disk.enter start

/-- What a path leads to. -/
def look (disk : Disk) (path : String) : Except FileError Item := do
  let route ← Route.ofPath path
  let directory ← disk.walk route.start route.directories
  match route.file with
  | none => return .directory
  | some name =>
    match disk.item? (← locate directory name) with
    | some item => return item
    | none => .error .notFound

def exists? (disk : Disk) (path : String) : Bool :=
  (disk.look path).isOk

def read (disk : Disk) (path : String) : Except FileError String := do
  match ← disk.look path with
  | .directory => .error .isDirectory
  | .file .binary => .error .notText
  | .file (.text content) => return content

/-- The disk with a file written, in place of the one that was there. -/
def put (disk : Disk) (place : Place) (content : String) : Disk :=
  if place = nullDevice then disk
  else ⟨disk.files.filter (fun file => file.1 != place) ++ [(place, .text content)]⟩

/-- The disk with a file written at the end of a path. A path that ends at a directory is refused
for that as soon as the names before its last are followed, whatever the last one is. -/
def write (disk : Disk) (path content : String) : Except FileError Disk := do
  let route ← Route.ofPath path
  match route.file with
  | none => do
    let _ ← disk.walk route.start route.directories.dropLast
    .error .isDirectory
  | some name => do
    let place ← locate (← disk.walk route.start route.directories) name
    if disk.hasDirectory place then .error .isDirectory else return disk.put place content

end Disk

/-- The host whose files are a disk and whose clock stands still. -/
def Host.ofDisk (now : String) : Host (StateM Disk) where
  exists? path := do return (← get).exists? path
  read path := do return (← get).read path
  write path content := do
    match (← get).write path content with
    | .ok disk => do
      set disk
      return .ok ()
    | .error error => return .error error
  now := return now

end TypeForm
