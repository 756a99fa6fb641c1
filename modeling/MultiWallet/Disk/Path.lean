import MultiWallet.Disk.Basic

/-!
Paths as they are written, and the places they lead to. A path is a row of parts
between slashes; two dots lead back to the directory above, and a single dot or
an empty part leads nowhere. A path that ends in a slash or a single dot asks for
a directory. Names and whole paths are limited in their length.
-/

namespace MultiWallet

/-- A path as someone writes it. -/
structure DiskPath where
  /-- Where the path sets out. -/
  base : Place
  /-- What stands between its slashes. -/
  parts : List String
deriving DecidableEq

namespace DiskPath

/-- A path followed by another one, which counts alone if it starts at the
root. -/
def join (base rest : String) : String :=
  if Text.startsWith rest "/" || base.isEmpty then rest
  else if Text.endsWith base "/" then base ++ rest
  else base ++ "/" ++ rest

/-- The path that a text writes, for someone who stands at a place. A path with a
slash at its head sets out at the root. -/
def ofText (standing : Place) (text : String) : DiskPath :=
  ⟨if Text.startsWith text "/" then [] else standing, text.splitOn "/"⟩

/-- Whether a part leads nowhere. -/
def isIdle (part : String) : Bool := part == "" || part == "."

/-- The names and steps back of a path, in order. -/
def steps (path : DiskPath) : List String := path.parts.filter (!isIdle ·)

/-- The place that the path leads to if every directory on the way exists. -/
def place (path : DiskPath) : Place :=
  path.steps.foldl (fun place step => if step = ".." then place.dropLast else place ++ [step])
    path.base

/-- Whether the path can only lead to a directory. -/
def asksDirectory (path : DiskPath) : Bool := path.parts.getLast?.all isIdle

/-- Whether the path says at its end to stay where it led. -/
def endsInDot (path : DiskPath) : Bool :=
  (path.parts.filter (· != "")).getLast? == some "."

/-- The number of bytes of the path when it is written out. -/
def size (path : DiskPath) : Nat := (Text.utf8 (Text.joined "/" path.parts)).length

/-- The path to the directory in which the path ends. -/
def parent (path : DiskPath) : DiskPath :=
  ⟨path.base, ((path.parts.reverse.dropWhile isIdle).tail.dropWhile isIdle).reverse⟩

def child (path : DiskPath) (name : String) : DiskPath := ⟨path.base, path.parts ++ [name]⟩

/-- The last name, unless the path ends with a step back or at the root. -/
def fileName? (path : DiskPath) : Option String := path.steps.getLast?.filter (· != "..")

end DiskPath

/-- The number of bytes a name may take. -/
def longestName : Nat := 255

/-- The number of bytes a path may take. -/
def longestPath : Nat := 4095

namespace Disk

/-- Follows the steps of a path from a place. Everything but the last step has
to be a directory that exists. -/
def follow (disk : Disk) (place : Place) : List String → Except IoError Place
  | [] => .ok place
  | step :: rest =>
    match disk.node? place with
    | none => .error .notFound
    | some (.file _ _) => .error .notDirectory
    | some .directory =>
      if step = ".." then disk.follow place.dropLast rest
      else if longestName < (Text.utf8 step).length then .error .nameTooLong
      else disk.follow (place ++ [step]) rest

/-- The place that a path leads to. No path holds the character NUL, and the empty
one leads nowhere. -/
def locate (disk : Disk) (path : DiskPath) : Except IoError Place :=
  if path.parts.any (·.toList.contains '\x00') then
    .error (.invalidInput "file name contained an unexpected NUL byte")
  else if path.size = 0 then .error .notFound
  else if longestPath < path.size then .error .nameTooLong
  else disk.follow path.base path.steps

def read (disk : Disk) (path : DiskPath) : Except IoError Bytes := do
  let place ← disk.locate path
  let content ← disk.contentAt place
  if path.asksDirectory then .error .notDirectory else return content

def readText (disk : Disk) (path : DiskPath) : Except IoError String := do
  match Text.ofUtf8? (← disk.read path) with
  | some text => return text
  | none => .error .invalidData

def nodeOf? (disk : Disk) (path : DiskPath) : Option Node :=
  match disk.locate path with
  | .error _ => none
  | .ok place =>
    match disk.node? place with
    | some (.file content modified) =>
      if path.asksDirectory then none else some (.file content modified)
    | node => node

def pathExists (disk : Disk) (path : DiskPath) : Bool := (disk.nodeOf? path).isSome

/-- The names of what stands directly in a directory. -/
def list (disk : Disk) (directory : Place) : List String :=
  disk.nodes.toList.filterMap fun (place, _) =>
    if place.dropLast = directory then place.getLast? else none

end Disk

end MultiWallet
