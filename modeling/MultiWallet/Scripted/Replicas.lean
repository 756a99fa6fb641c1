import MultiWallet.Replica.FileStore
import MultiWallet.Scripted.Store

/-!
A scripted store and a store in files side by side, of which one is used.
-/

namespace MultiWallet

structure Replicas where
  scripted : ScriptedStore
  disk : Disk
  files : FileStore
  usesFiles : Bool

namespace Replicas

def store : Store Replicas where
  get key replicas :=
    if replicas.usesFiles then
      let (answer, disk) := replicas.files.store.get key replicas.disk
      (answer, { replicas with disk })
    else (replicas.scripted.get key, replicas)
  set key value version replicas :=
    if replicas.usesFiles then
      let (answer, disk) := replicas.files.store.set key value version replicas.disk
      (answer, { replicas with disk })
    else
      let (answer, scripted) := replicas.scripted.set key value version
      (answer, { replicas with scripted })

def placeOf (replicas : Replicas) (name : String) : Place :=
  replicas.files.directory.place ++ [name]

def putFile (replicas : Replicas) (name : String) (content : Bytes) : Replicas :=
  let disk := (replicas.disk.makeDirectories replicas.files.directory).1
  { replicas with disk := disk.put (replicas.placeOf name) (.file content disk.clock) }

/-- Puts a file in the place of the store's directory. -/
def block (replicas : Replicas) : Replicas :=
  let disk := (replicas.disk.removeTree replicas.files.directory).1
  { replicas with disk := disk.put replicas.files.directory.place (.file [] disk.clock) }

end Replicas

end MultiWallet
