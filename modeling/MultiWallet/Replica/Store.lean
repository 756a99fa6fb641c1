import MultiWallet.Replica.Record

/-!
Stores of versioned records. A store is known by what it answers to reading and
writing; it may answer a write with another record than the one it was given,
which is then the one that counts. Typed objects are kept under fixed keys.
-/

namespace MultiWallet

/-- A store with states `σ`. Writing takes the version that was last seen. -/
structure Store (σ : Type) where
  get : String → σ → Except ReplicaError (Option RawRecord) × σ
  set : String → Bytes → Nat → σ → Except ReplicaError RawRecord × σ

/-- Objects that are kept under a key of their own. -/
class Persisted (α : Type) where
  key : String
  encode : α → Bytes
  decode? : Bytes → Option α

namespace Record

def decoded {α : Type} [Persisted α] (raw : RawRecord) : Except ReplicaError (Record α) :=
  match Persisted.decode? (α := α) raw.value with
  | some value => .ok (raw.withValue value)
  | none => .error .serialization

/-- What a read record holds. A deleted one counts as absent. -/
def present {α : Type} [Persisted α] (raw : Option RawRecord) :
    Except ReplicaError (Option (Record α)) :=
  match raw with
  | none => .ok none
  | some raw => if raw.deleted then .ok none else raw.decoded.map some

end Record

namespace Store

variable {σ α : Type} [Persisted α]

def load (store : Store σ) (s : σ) : Except ReplicaError (Option (Record α)) × σ :=
  match store.get (Persisted.key α) s with
  | (.error fault, s) => (.error fault, s)
  | (.ok raw, s) => (Record.present raw, s)

/-- Writes an object, and answers with the record that the store reports. -/
def save (store : Store σ) (value : α) (version : Nat) (s : σ) :
    Except ReplicaError (Record α) × σ :=
  match store.set (Persisted.key α) (Persisted.encode value) version s with
  | (.error fault, s) => (.error fault, s)
  | (.ok raw, s) => (raw.decoded, s)

end Store

end MultiWallet
