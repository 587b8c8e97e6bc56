import PresenceSeal.Host.Path
import PresenceSeal.Lookup

/-! A disk with the operations that saving needs. Files hold bytes and have a mode;
any operation may be refused for reasons that lie outside, and a refused write may
leave something behind. A path is followed name by name, and every name but the last
must lead to a directory. -/
namespace PresenceSeal.Disk

/-- What stands at a place. -/
inductive Node where
  | file (bytes : List UInt8) (mode : Nat)
  | directory
  deriving DecidableEq

/-- What can be refused from outside. -/
inductive Operation where
  | write (place : Place)
  | setMode (place : Place)
  | rename (source target : Place)
  | makeDirectory (place : Place)
  deriving DecidableEq

/-- A refusal from outside, and what a refused write leaves of its file. -/
structure Obstacle where
  error : DiskError
  remnant : Option (List UInt8) := none

end Disk

/-- A disk's nodes, and what is refused from outside. -/
structure Disk where
  nodes : List (Place × Disk.Node) := []
  obstacle : Disk.Operation → Option Disk.Obstacle := fun _ => none

namespace Disk

def find? (disk : Disk) (place : Place) : Option Node := disk.nodes.lookup place

def file? (disk : Disk) (place : Place) : Option (List UInt8) :=
  match disk.find? place with
  | some (.file bytes _) => some bytes
  | _ => none

/-- Whether a directory is at a place: every start is one, and so is whatever a node
lies below. -/
def isDirectory (disk : Disk) (place : Place) : Bool :=
  place.names.isEmpty || disk.find? place == some .directory ||
    disk.nodes.any fun (other, _) => other.isWithin place && other != place

def erase (disk : Disk) (place : Place) : Disk :=
  { disk with nodes := disk.nodes.filter (·.1 != place) }

def put (disk : Disk) (place : Place) (node : Node) : Disk :=
  { disk with nodes := (place, node) :: disk.nodes.filter (·.1 != place) }

theorem find?_erase (disk : Disk) (place other : Place) :
    (disk.erase place).find? other = if other = place then none else disk.find? other :=
  lookup_filter_ne disk.nodes place other

theorem find?_put (disk : Disk) (place other : Place) (node : Node) :
    (disk.put place node).find? other =
      if other = place then some node else disk.find? other := by
  have rest := lookup_filter_ne disk.nodes place other
  by_cases same : other = place
  · simp [find?, put, same]
  · rw [if_neg same] at rest
    simpa [find?, put, List.lookup_cons, same, beq_eq_false_iff_ne.mpr same] using rest

/-- The directory that a name in a directory leads to. -/
def enter (disk : Disk) (folder : Place) (name : String) : Except DiskError Place :=
  if name = "." then .ok folder
  else if name = ".." then .ok folder.parent
  else if Path.maxName < name.utf8ByteSize then .error .nameTooLong
  else if disk.isDirectory (folder.child name) then .ok (folder.child name)
  else if (disk.file? (folder.child name)).isSome then .error .notADirectory
  else .error .notFound

/-- Follows names to the place that the last one stands for. Dots and the end of a path
without names stand for a directory that is there already, and for no place in one. -/
def follow (disk : Disk) (folder : Place) : List String → Except DiskError (Option Place)
  | [] => .ok none
  | [name] =>
    if name = "." ∨ name = ".." then .ok none
    else if Path.maxName < name.utf8ByteSize then .error .nameTooLong
    else .ok (some (folder.child name))
  | name :: rest => do follow disk (← disk.enter folder name) rest

/-- The errors for paths that can only be those of directories. -/
structure Endings where
  /-- For a path that ends in dots, or is the root's. -/
  dots : DiskError
  /-- For a path with a slash behind its last name. -/
  slash : DiskError

/-- The place of the file that a path leads to, whether it is there or not. -/
def locate (disk : Disk) (endings : Endings) (path : String) : Except DiskError Place := do
  let path ← Path.ofText path
  match ← disk.follow ⟨path.start, []⟩ path.names with
  | none => .error endings.dots
  | some place =>
    if path.slashed then .error endings.slash
    else if disk.isDirectory place then .error .isADirectory
    else .ok place

/-- Reading and writing find a directory where they want a file. -/
def opening : Endings := ⟨.isADirectory, .isADirectory⟩

/-- Moving leaves directories in use alone. -/
def moving : Endings := ⟨.busy, .notADirectory⟩

/-- The bytes of the file that a path leads to, if there is one. -/
def read? (disk : Disk) (path : String) : Option (List UInt8) :=
  match disk.locate opening path with
  | .ok place => disk.file? place
  | .error _ => none

def usualMode : Nat := 0o644

/-- The mode of the file at a place, or that of a new one. -/
def modeAt (disk : Disk) (place : Place) : Nat :=
  match disk.find? place with
  | some (.file _ mode) => mode
  | _ => usualMode

/-- Writes a file, which keeps its mode if it is there already. -/
def write (disk : Disk) (path : String) (bytes : List UInt8) : Except DiskError Unit × Disk :=
  match disk.locate opening path with
  | .error error => (.error error, disk)
  | .ok place =>
    match disk.obstacle (.write place) with
    | some ⟨error, some left⟩ => (.error error, disk.put place (.file left (disk.modeAt place)))
    | some ⟨error, none⟩ => (.error error, disk)
    | none => (.ok (), disk.put place (.file bytes (disk.modeAt place)))

def setMode (disk : Disk) (path : String) (mode : Nat) : Except DiskError Unit × Disk :=
  match disk.locate opening path with
  | .error error => (.error error, disk)
  | .ok place =>
    match disk.obstacle (.setMode place), disk.find? place with
    | some obstacle, _ => (.error obstacle.error, disk)
    | none, some (.file bytes _) => (.ok (), disk.put place (.file bytes mode))
    | none, _ => (.error .notFound, disk)

/-- The places that a file is moved from and to. -/
def locateMove (disk : Disk) (source target : String) : Except DiskError (Place × Place) := do
  return (← disk.locate moving source, ← disk.locate moving target)

/-- Moves a file in place of another. -/
def rename (disk : Disk) (source target : String) : Except DiskError Unit × Disk :=
  match disk.locateMove source target with
  | .error error => (.error error, disk)
  | .ok (source, target) =>
    match disk.obstacle (.rename source target), disk.find? source with
    | some obstacle, _ => (.error obstacle.error, disk)
    | none, some (.file bytes mode) =>
      (.ok (), (disk.erase source).put target (.file bytes mode))
    | none, _ => (.error .notFound, disk)

/-- Follows names and makes the directories that are missing. -/
def makeEach (disk : Disk) (folder : Place) : List String → Except DiskError Disk
  | [] => .ok disk
  | name :: rest =>
    match disk.enter folder name with
    | .ok next => makeEach disk next rest
    | .error .notFound =>
      match disk.obstacle (.makeDirectory (folder.child name)) with
      | some obstacle => .error obstacle.error
      | none => makeEach (disk.put (folder.child name) .directory) (folder.child name) rest
    | .error error => .error error

/-- Makes what is missing of the directories that a path leads through. The empty path is
the working directory's. -/
def makeDirectories (disk : Disk) (path : String) : Except DiskError Disk :=
  if path.isEmpty then .ok disk
  else do
    let path ← Path.ofText path
    disk.makeEach ⟨path.start, []⟩ path.names

end Disk

end PresenceSeal
