import MultiWallet.Disk.Path

/-!
Replacing a file as a whole. The new content is written to a temporary file
beside the target, which is then renamed over it, so that a reader sees either
the old file or the new one. Missing directories are made first, and the
temporary file is taken away when it cannot be renamed.

A run keeps the states of the disk between its steps.
-/

namespace MultiWallet

/-- A row of steps under way. -/
structure DiskRun where
  disk : Disk
  /-- The disk before each step that was carried out, the latest first. -/
  past : List Disk

namespace DiskRun

def start (disk : Disk) : DiskRun := ⟨disk, []⟩

/-- One more step. A step that fails leaves the run as it was. -/
def step (run : DiskRun) (change : DiskStep) : DiskRun × Except IoError Unit :=
  match run.disk.perform change with
  | .ok disk => (⟨disk, run.disk :: run.past⟩, .ok ())
  | .error fault => (run, .error fault)

/-- All states of the disk that the run went through, the latest first. -/
def states (run : DiskRun) : List Disk := run.disk :: run.past

/-- Makes the directory at a place, unless it is there. -/
def makeAt (run : DiskRun) (place : Place) : DiskRun × Except IoError Place :=
  match run.disk.node? place with
  | some .directory => (run, .ok place)
  | some (.file _ _) => (run, .error .alreadyExists)
  | none =>
    match run.step (.makeDirectory place) with
    | (run, .ok ()) => (run, .ok place)
    | (run, .error fault) => (run, .error fault)

/-- Makes the directory that a path leads to, unless it is there. -/
def makeDirectory (run : DiskRun) (path : DiskPath) : DiskRun × Except IoError Place :=
  match run.disk.locate path with
  | .error fault => (run, .error fault)
  | .ok place =>
    if path.endsInDot && (run.disk.node? place).isNone then (run, .error .notFound)
    else run.makeAt place

/-- Takes steps from a place on, and makes each directory on the way that is
missing. -/
def makeWay (run : DiskRun) (place : Place) : List String → DiskRun × Except IoError Place
  | [] => (run, .ok place)
  | step :: rest =>
    match run.disk.follow place [step] with
    | .error fault => (run, .error fault)
    | .ok next =>
      match run.makeAt next with
      | (run, .ok next) => run.makeWay next rest
      | failed => failed

/-- Makes the directory that a path leads to, and those above it that are missing.
An empty path asks for none. -/
def makeDirectories (run : DiskRun) (path : DiskPath) : DiskRun × Except IoError Unit :=
  if path.size = 0 then (run, .ok ())
  else
    match run.makeDirectory path with
    | (run, .ok _) => (run, .ok ())
    | (run, .error .notFound) =>
      match run.makeWay path.base path.steps.dropLast with
      | (run, .error fault) => (run, .error fault)
      | (run, .ok _) =>
        let (run, answer) := run.makeDirectory path
        (run, answer.map fun _ => ())
    | (run, .error fault) => (run, .error fault)

def moveTo (run : DiskRun) (source : Place) (path : DiskPath) : DiskRun × Except IoError Unit :=
  match run.disk.locate path with
  | .error fault => (run, .error fault)
  | .ok target =>
    if path.asksDirectory then (run, .error .notDirectory)
    else run.step (.rename source target)

/-- Puts a file with the given content at a temporary place and renames it. -/
def install (run : DiskRun) (temporary : Place) (path : DiskPath) (content : Bytes) :
    DiskRun × Except IoError Unit :=
  match run.step (.truncate temporary) with
  | (run, .error fault) => (run, .error fault)
  | (run, .ok ()) =>
    match run.step (.fill temporary content) with
    | (run, .error fault) => (run, .error fault)
    | (run, .ok ()) =>
      match run.moveTo temporary path with
      | (run, .ok ()) => (run, .ok ())
      | (run, .error fault) => ((run.step (.remove temporary)).1, .error fault)

def temporaryName (name : String) : String := "." ++ name ++ ".tmp"

def replace (run : DiskRun) (path : DiskPath) (content : Bytes) :
    DiskRun × Except IoError Unit :=
  match run.makeDirectories path.parent with
  | (run, .error fault) => (run, .error fault)
  | (run, .ok ()) =>
    match path.fileName? with
    | none => (run, .error (.invalidInput "path has no file name"))
    | some name =>
      match run.disk.locate (path.parent.child (temporaryName name)) with
      | .error fault => (run, .error fault)
      | .ok temporary => run.install temporary path content

end DiskRun

namespace Disk

def replace (disk : Disk) (path : DiskPath) (content : Bytes) : Disk × Except IoError Unit :=
  let (run, answer) := (DiskRun.start disk).replace path content
  (run.disk, answer)

def makeDirectories (disk : Disk) (path : DiskPath) : Disk × Except IoError Unit :=
  let (run, answer) := (DiskRun.start disk).makeDirectories path
  (run.disk, answer)

def removeTree (disk : Disk) (path : DiskPath) : Disk × Except IoError Unit :=
  match disk.locate path with
  | .error fault => (disk, .error fault)
  | .ok place =>
    match disk.perform (.removeTree place) with
    | .ok disk => (disk, .ok ())
    | .error fault => (disk, .error fault)

end Disk

end MultiWallet
