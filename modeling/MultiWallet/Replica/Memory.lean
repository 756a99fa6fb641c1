import MultiWallet.Replica.Notice
import MultiWallet.Replica.Store
import MultiWallet.Table

/-!
A store that lives in memory only. It announces what other replicas write.
-/

namespace MultiWallet

structure Memory where
  clock : Instant
  records : Table String RawRecord
  /-- The keys announced so far, the latest one first. -/
  announced : List String

namespace Memory

def empty : Memory := ⟨.epoch, ∅, []⟩

/-- The version of the record under a key, or zero. -/
def versionOf (memory : Memory) (key : String) : Nat :=
  (memory.records[key]?.map (·.version)).getD 0

def notify (memory : Memory) (key : String) : Memory :=
  { memory with announced := key :: memory.announced }

/-- Takes over a record of another replica, whatever version it has. -/
def applyRemote (memory : Memory) (key : String) (value : Bytes) (version : Nat) : Memory :=
  notify { memory with
    records := memory.records.insert key ⟨key, version, memory.clock, false, value⟩ } key

def get (memory : Memory) (key : String) : Except ReplicaError (Option RawRecord) :=
  if isKey key then .ok memory.records[key]? else .error (.invalidKey key)

/-- Writes a record. Its version exceeds both the stored one and the one that the
writer knows. Versions are words of 64 bits; that none overflows is
assumed. -/
def set (memory : Memory) (key : String) (value : Bytes) (version : Nat) :
    Except ReplicaError RawRecord × Memory :=
  if isKey key then
    let record : RawRecord :=
      ⟨key, max (memory.versionOf key) version + 1, memory.clock, false, value⟩
    (.ok record, { memory with records := memory.records.insert key record })
  else (.error (.invalidKey key), memory)

def store : Store Memory where
  get key memory := (memory.get key, memory)
  set key value version memory := memory.set key value version

end Memory

end MultiWallet
