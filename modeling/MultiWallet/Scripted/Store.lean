import MultiWallet.Replica.Memory

/-!
A store in memory that misbehaves as it is told: it fails, reports records as
deleted, or answers writes with other versions or values than it stored.
-/

namespace MultiWallet

/-- What a scripted store is told. What is left out stays as it is. -/
structure StoreScript where
  failsReading : Option Bool
  failsWriting : Option Bool
  /-- The keys whose records are reported as deleted. -/
  tombstones : Option (List String)
  /-- Versions for the answers to the next writes. -/
  versions : Option (List Nat)
  /-- The value that the next write is answered. -/
  echo : Option Bytes
  /-- Records of another replica that arrive, with their versions. -/
  records : List (String × Bytes × Nat)

structure ScriptedStore where
  memory : Memory
  failsReading : Bool
  failsWriting : Bool
  tombstones : List String
  versions : List Nat
  echo : Option Bytes

namespace ScriptedStore

def empty : ScriptedStore := ⟨.empty, false, false, [], [], none⟩

def offline : ReplicaError := .unavailable "offline"

def applyRemote (store : ScriptedStore) (key : String) (value : Bytes) (version : Nat) :
    ScriptedStore :=
  { store with memory := store.memory.applyRemote key value version }

def notify (store : ScriptedStore) (key : String) : ScriptedStore :=
  { store with memory := store.memory.notify key }

def configure (store : ScriptedStore) (script : StoreScript) : ScriptedStore :=
  script.records.foldl (fun store (key, value, version) => store.applyRemote key value version)
    { store with
      failsReading := script.failsReading.getD store.failsReading
      failsWriting := script.failsWriting.getD store.failsWriting
      tombstones := script.tombstones.getD store.tombstones
      versions := script.versions.getD store.versions
      echo := script.echo.or store.echo }

def get (store : ScriptedStore) (key : String) : Except ReplicaError (Option RawRecord) :=
  if store.failsReading then .error offline
  else
    (store.memory.get key).map fun record =>
      record.map fun record =>
        { record with deleted := record.deleted || store.tombstones.contains key }

/-- Writes a record, and answers as it was told. -/
def set (store : ScriptedStore) (key : String) (value : Bytes) (version : Nat) :
    Except ReplicaError RawRecord × ScriptedStore :=
  if store.failsWriting then (.error offline, store)
  else
    match store.memory.set key value version with
    | (.error fault, memory) => (.error fault, { store with memory })
    | (.ok record, memory) =>
      (.ok { record with
          version := store.versions.head?.getD record.version
          value := store.echo.getD record.value },
        { store with memory, versions := store.versions.tail, echo := none })

def store : Store ScriptedStore where
  get key scripted := (scripted.get key, scripted)
  set key value version scripted := scripted.set key value version

end ScriptedStore

end MultiWallet
