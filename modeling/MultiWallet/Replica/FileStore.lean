import MultiWallet.Disk.Replace
import MultiWallet.Json.Fields
import MultiWallet.Json.Reader
import MultiWallet.Json.Writer
import MultiWallet.Replica.Store
import MultiWallet.Time.Rfc3339

/-!
A store with one file for each record. A file holds the version, the time of the
change, the mark of deletion and the bytes in hexadecimal. Files are replaced as
a whole; an unreadable one counts as version zero when it is written over.
-/

namespace MultiWallet

namespace RawRecord

def fileContent (record : RawRecord) : Bytes :=
  (Json.Value.record [
    ("version", .natural record.version),
    ("last_modified", .text record.lastModified.text),
    ("deleted", .bool record.deleted),
    ("value", .text (Hex.encode record.value))]).indented

def ofFileText (key text : String) : Except ReplicaError RawRecord := do
  let stored : Option (Nat × Instant × Bool × String) := do
    let value ← Json.parse (Text.utf8 text)
    let fields ← value.fields ["version", "last_modified", "deleted", "value"]
    let version ← fields.required "version" (·.asWord)
    let lastModified ← fields.required "last_modified" (·.asText.bind Instant.ofText?)
    let deleted ← fields.optional "deleted" (·.asBool) false
    let hex ← fields.required "value" (·.asText)
    return (version, lastModified, deleted, hex)
  match stored with
  | none => .error .serialization
  | some (version, lastModified, deleted, hex) =>
    match Hex.decode hex with
    | .error fault => .error (.encoding key fault)
    | .ok value => return ⟨key, version, lastModified, deleted, value⟩

end RawRecord

structure FileStore where
  directory : DiskPath
deriving DecidableEq

namespace FileStore

def fileName (key : String) : String := key ++ ".kv.json"

def path (files : FileStore) (key : String) : DiskPath :=
  files.directory.child (fileName key)

/-- The record in a file. A missing file means no record. -/
def readRecord (files : FileStore) (key : String) (disk : Disk) :
    Except ReplicaError (Option RawRecord) :=
  match disk.readText (files.path key) with
  | .error .notFound => .ok none
  | .error fault => .error (.io fault)
  | .ok text => (RawRecord.ofFileText key text).map some

def get (files : FileStore) (key : String) (disk : Disk) :
    Except ReplicaError (Option RawRecord) :=
  if isKey key then files.readRecord key disk else .error (.invalidKey key)

/-- The version of the record under a key, or zero. -/
def versionOf (files : FileStore) (key : String) (disk : Disk) : Nat :=
  match files.readRecord key disk with
  | .ok (some record) => record.version
  | _ => 0

/-- Writes a record. Its version exceeds both the stored one and the one that the
writer knows. Versions are words of 64 bits; that none overflows is
assumed. -/
def set (files : FileStore) (key : String) (value : Bytes) (version : Nat) (disk : Disk) :
    Except ReplicaError RawRecord × Disk :=
  if isKey key then
    let record : RawRecord :=
      ⟨key, max (files.versionOf key disk) version + 1, disk.clock, false, value⟩
    match disk.replace (files.path key) (RawRecord.fileContent record) with
    | (disk, .ok ()) => (.ok record, disk)
    | (disk, .error fault) => (.error (.io fault), disk)
  else (.error (.invalidKey key), disk)

def store (files : FileStore) : Store Disk where
  get key disk := (files.get key disk, disk)
  set key value version disk := files.set key value version disk

end FileStore

end MultiWallet
