import MultiWallet.Cli
import Std.Time

/-!
The program. It takes the files that the command line looks at from the file
system, runs it, writes the files that changed and prints the report.
-/

namespace MultiWallet.Main

def instantOf (nanos : Int) : Instant := (Instant.ofUnixNanos? nanos).getD .epoch

def pathText (place : Place) : String := "/" ++ Text.joined "/" place

/-- A disk with a node at a place, and directories above it. -/
def putWithWay (disk : Disk) (place : Place) (node : Node) : Disk :=
  let above := (List.range place.length).tail.map place.take
  (above.foldl (fun disk directory => disk.put directory .directory) disk).put place node

/-- Takes what stands at a place of the file system. -/
def take (disk : Disk) (path : DiskPath) : IO Disk := do
  let file := (← IO.currentDir) / pathText path.place
  if ← file.isDir then return putWithWay disk path.place .directory
  if ← file.pathExists then
    let modified := (← file.metadata).modified
    let content ← IO.FS.readBinFile file
    return putWithWay disk path.place
      (.file content.data.toList (instantOf (modified.sec * 1000000000 + modified.nsec.toNat)))
  return disk

/-- Writes a file beside its place and moves it there. -/
def give (place : Place) (content : Bytes) : IO Unit := do
  let root ← IO.currentDir
  let temporary := root / pathText (place.dropLast ++ ["." ++ place.getLast?.getD "" ++ ".tmp"])
  IO.FS.createDirAll (root / pathText place.dropLast)
  IO.FS.writeBinFile temporary ⟨content.toArray⟩
  IO.FS.rename temporary (root / pathText place)

/-- Writes the files that differ from what was taken. What cannot be written is
left. -/
def giveChanges (before after : Disk) : IO Unit := do
  for (place, node) in after.nodes.toList do
    match node with
    | .directory => pure ()
    | .file content modified =>
      if before.node? place ≠ some (.file content modified) then
        try give place content catch _ => pure ()

/-- Runs the command line in the present directory. -/
def run (arguments : List String) : IO Unit := do
  let standing : Place := (← IO.currentDir).components.filter (· != "")
  let time ← Std.Time.Timestamp.now
  let blank : Disk := { Disk.blank with clock := instantOf time.toNanosecondsSinceUnixEpoch.val }
  let disk := putWithWay blank standing .directory
  let disk ← take disk (.ofText standing (Cli.configName arguments))
  let disk ← (Cli.places standing arguments disk).foldlM take disk
  let (lines, after) := Cli.run standing arguments Cli.unreachable disk ()
  giveChanges disk after
  for line in lines do
    IO.println line.text

end MultiWallet.Main

/-- Reports on the wallets of the present directory, or of a configuration. -/
def main (arguments : List String) : IO Unit := MultiWallet.Main.run arguments
