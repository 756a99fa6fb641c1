import MultiWallet.Disk.Basic
import MultiWallet.Text.Hex

/-!
Versioned records and the keys they are kept under. Version zero means that a
record has never been stored.
-/

namespace MultiWallet

/-- A value with the marks of its replication. -/
structure Record (α : Type) where
  key : String
  version : Nat
  lastModified : Instant
  /-- Set by a remote deletion. -/
  deleted : Bool
  value : α
deriving DecidableEq

namespace Record

/-- A record that exists only in memory. -/
def unsaved {α : Type} (key : String) (value : α) : Record α := ⟨key, 0, .epoch, false, value⟩

def withValue {α β : Type} (record : Record α) (value : β) : Record β :=
  ⟨record.key, record.version, record.lastModified, record.deleted, value⟩

end Record

/-- A record as stores hold it. -/
abbrev RawRecord := Record Bytes

inductive ReplicaError where
  /-- A value does not have the form it should have. -/
  | serialization
  | io (fault : IoError)
  | encoding (key : String) (fault : Hex.Fault)
  | invalidKey (key : String)
  | unavailable (reason : String)
deriving DecidableEq

/-- The wording of an error, where it is this program's own. -/
def ReplicaError.message? : ReplicaError → Option String
  | .serialization | .io _ => none
  | .encoding key fault =>
    some ("Encoding error: Failed to decode record " ++ key ++ ": " ++ fault.message)
  | .invalidKey key => some ("Invalid key: " ++ key)
  | .unavailable reason => some ("Replica unavailable: " ++ reason)

def isKeyChar (c : Char) : Bool := c.isAlphanum || c == '-' || c == '_' || c == '.'

/-- Whether a text is a key: not empty, made of harmless characters, and without
a leading dot. -/
def isKey (text : String) : Bool :=
  match text.toList with
  | [] => false
  | c :: rest => c != '.' && (c :: rest).all isKeyChar

end MultiWallet
