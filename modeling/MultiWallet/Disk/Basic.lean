import MultiWallet.Table
import MultiWallet.Text.Bytes
import MultiWallet.Time.Instant

/-!
A file system as a tree of named nodes. Every change is one of a few elementary
steps; larger operations are rows of such steps, so that one can say what is on
the disk after each of them. A disk may refuse any step, which stands for all
that can go wrong with a device.
-/

namespace MultiWallet

inductive IoError where
  | notFound
  | notDirectory
  | isDirectory
  | alreadyExists
  | nameTooLong
  /-- The operation makes no sense for its argument. -/
  | invalidInput (reason : String)
  /-- The content is no text. -/
  | invalidData
  /-- The device refuses. -/
  | device
deriving DecidableEq

/-- Where a node stands: the names that lead to it from the root. -/
abbrev Place := List String

inductive Node where
  | file (content : Bytes) (modified : Instant)
  | directory
deriving DecidableEq

/-- An elementary change of a disk, or the reading of a file. -/
inductive DiskStep where
  | read (place : Place)
  | makeDirectory (place : Place)
  /-- Makes an empty file, or empties the one that is there. -/
  | truncate (place : Place)
  | fill (place : Place) (content : Bytes)
  /-- Puts a file in another place, over any file that stands there. -/
  | rename (source target : Place)
  | remove (place : Place)
  /-- Removes a directory with all that is below it. -/
  | removeTree (place : Place)
deriving DecidableEq

/-- A disk. The root is a directory and has no entry of its own. -/
structure Disk where
  clock : Instant
  refuses : DiskStep → Bool
  nodes : Table Place Node

namespace Disk

/-- A disk with nothing on it that refuses nothing. -/
def blank : Disk := ⟨.epoch, fun _ => false, ∅⟩

def node? (disk : Disk) (place : Place) : Option Node :=
  if place = [] then some .directory else disk.nodes[place]?

def put (disk : Disk) (place : Place) (node : Node) : Disk :=
  { disk with nodes := disk.nodes.insert place node }

def drop (disk : Disk) (place : Place) : Disk :=
  { disk with nodes := disk.nodes.erase place }

def contentAt (disk : Disk) (place : Place) : Except IoError Bytes :=
  if disk.refuses (.read place) then .error .device
  else
    match disk.node? place with
    | some (.file content _) => .ok content
    | some .directory => .error .isDirectory
    | none => .error .notFound

/-- What a step makes of a disk that does not refuse it. -/
def carryOut (disk : Disk) : DiskStep → Except IoError Disk
  | .read place => (disk.contentAt place).map fun _ => disk
  | .makeDirectory place =>
    match disk.node? place with
    | some _ => .error .alreadyExists
    | none => .ok (disk.put place .directory)
  | .truncate place =>
    match disk.node? place with
    | some .directory => .error .isDirectory
    | _ => .ok (disk.put place (.file [] disk.clock))
  | .fill place content =>
    match disk.node? place with
    | some (.file _ _) => .ok (disk.put place (.file content disk.clock))
    | some .directory => .error .isDirectory
    | none => .error .notFound
  | .rename source target =>
    match disk.node? source, disk.node? target with
    | none, _ => .error .notFound
    | some .directory, _ => .error .isDirectory
    | some (.file _ _), some .directory => .error .isDirectory
    | some node, _ => .ok ((disk.drop source).put target node)
  | .remove place =>
    match disk.node? place with
    | some (.file _ _) => .ok (disk.drop place)
    | some .directory => .error .isDirectory
    | none => .error .notFound
  | .removeTree place =>
    match disk.node? place with
    | some .directory =>
      .ok { disk with nodes := disk.nodes.filter fun other _ => !place.isPrefixOf other }
    | some (.file _ _) => .error .notDirectory
    | none => .error .notFound

def perform (disk : Disk) (step : DiskStep) : Except IoError Disk :=
  if disk.refuses step then .error .device else disk.carryOut step

end Disk

end MultiWallet
