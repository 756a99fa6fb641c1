import MultiWallet.Currency.Id
import MultiWallet.Engine.Mode
import MultiWallet.Json.Fields
import MultiWallet.Json.Reader
import MultiWallet.Json.Writer
import MultiWallet.Replica.Notice
import MultiWallet.Replica.Store
import MultiWallet.Time.Rfc3339

/-!
The connection mode that was chosen for each network, kept in the replicated
record about the wallet. Modes are stored as numbers, under the id of the
network's own currency; a number that stands for no mode, or for one that is not
supported, is as good as none.
-/

namespace MultiWallet

structure WalletInfo where
  classVersion : UInt32
  name : String
  creationDate : Option Instant
  /-- The chosen modes, by native currency. -/
  modes : Table CurrencyId UInt8

namespace WalletInfo

def standard : WalletInfo := ⟨3, "", none, ∅⟩

def toJson (info : WalletInfo) : Json.Value :=
  .record [
    ("classVersion", .natural info.classVersion.toNat),
    ("name", .text info.name),
    ("creationDate", info.creationDate.elim .null fun date => .text date.text),
    ("connectionModes", .record (info.modes.toList.map fun (uid, number) =>
      (uid.text, .natural number.toNat)))]

/-- The record that a JSON value holds. Any field may be missing. -/
def ofJson? (value : Json.Value) : Option WalletInfo := do
  let fields ← value.fields ["classVersion", "name", "creationDate", "connectionModes"]
  let classVersion ← fields.optional "classVersion" (·.asUInt32) standard.classVersion
  let name ← fields.optional "name" (·.asText) standard.name
  let creationDate ← fields.optional "creationDate"
    (·.asOption (·.asText.bind Instant.ofText?)) standard.creationDate
  let modes ← fields.optional "connectionModes" (·.asEntries (·.asUInt8)) []
  return ⟨classVersion, name, creationDate, Table.ofPairs (modes.map fun (uid, n) => (⟨uid⟩, n))⟩

instance : Persisted WalletInfo where
  key := "wallet-info"
  encode info := info.toJson.compact
  decode? bytes := (Json.parse bytes).bind ofJson?

end WalletInfo

/-- The mode that suits a currency's network unless another one is chosen: the
chains at the base of bitcoin are reached peer to peer, all else by the API. -/
def ManagerMode.standardFor (uid : CurrencyId) : ManagerMode :=
  let family := Text.before '-' uid.networkId
  if family = "bitcoin" ∨ family = "bitcoincash" then .p2pOnly else .apiOnly

/-- The connection settings, by the record that they were read from or last
written to. -/
structure ConnectionSettings where
  info : Record WalletInfo

namespace ConnectionSettings

variable {σ : Type}

def standard : ConnectionSettings := ⟨.unsaved (Persisted.key WalletInfo) .standard⟩

/-- The settings in a store. What cannot be read counts as absent. -/
def load (store : Store σ) (s : σ) : ConnectionSettings × σ :=
  match store.load (α := WalletInfo) s with
  | (.ok (some record), s) => (⟨record⟩, s)
  | (_, s) => (standard, s)

def version (settings : ConnectionSettings) : Nat := settings.info.version

def number? (settings : ConnectionSettings) (uid : CurrencyId) : Option UInt8 :=
  settings.info.value.modes[uid]?

/-- The mode stored for a currency, if its number stands for one. -/
def mode? (settings : ConnectionSettings) (uid : CurrencyId) : Option ManagerMode :=
  (settings.number? uid).bind ManagerMode.ofNumber?

def withModes (settings : ConnectionSettings) (modes : Table CurrencyId UInt8) :
    ConnectionSettings :=
  ⟨settings.info.withValue { settings.info.value with modes }⟩

/-- Notes the mode for a currency, without writing it. -/
def note (settings : ConnectionSettings) (uid : CurrencyId) (mode : ManagerMode) :
    ConnectionSettings :=
  settings.withModes (settings.info.value.modes.insert uid mode.number)

/-- The mode stored for a currency, if it is supported. -/
def usable? (settings : ConnectionSettings) (uid : CurrencyId)
    (supported : ManagerMode → Bool) : Option ManagerMode :=
  (settings.mode? uid).filter supported

/-- Forgets the number stored for a currency if it stands for no supported mode.
The flag tells whether one was forgotten. -/
def sanitize (settings : ConnectionSettings) (uid : CurrencyId)
    (supported : ManagerMode → Bool) : Bool × ConnectionSettings :=
  if (settings.number? uid).isSome && (settings.usable? uid supported).isNone then
    (true, settings.withModes (settings.info.value.modes.erase uid))
  else (false, settings)

/-- Writes the settings. They become what the store reports. -/
def save (store : Store σ) (settings : ConnectionSettings) (s : σ) :
    Except ReplicaError Unit × ConnectionSettings × σ :=
  match store.save settings.info.value settings.version s with
  | (.error fault, s) => (.error fault, settings, s)
  | (.ok record, s) => (.ok (), ⟨record⟩, s)

/-- Chooses the mode for a currency. The choice holds even if it cannot be
written. -/
def choose (store : Store σ) (settings : ConnectionSettings) (uid : CurrencyId)
    (mode : ManagerMode) (s : σ) : Except ReplicaError Unit × ConnectionSettings × σ :=
  (settings.note uid mode).save store s

/-- The mode to use for a currency. If none is stored that can be used, the
standard one is chosen. -/
def modeFor (store : Store σ) (settings : ConnectionSettings) (uid : CurrencyId)
    (supported : ManagerMode → Bool) (s : σ) : ManagerMode × ConnectionSettings × σ :=
  match settings.usable? uid supported with
  | some mode => (mode, settings, s)
  | none =>
    let mode := ManagerMode.standardFor uid
    match (settings.sanitize uid supported).2.choose store uid mode s with
    | (_, settings, s) => (mode, settings, s)

/-- Takes over a newer record if a notification concerns it. The answer tells
whether the settings changed. -/
def heed (store : Store σ) (notice : Notice) (settings : ConnectionSettings) (s : σ) :
    Except ReplicaError Bool × ConnectionSettings × σ :=
  if notice.touches (Persisted.key WalletInfo) then
    match store.load (α := WalletInfo) s with
    | (.error fault, s) => (.error fault, settings, s)
    | (.ok none, s) => (.ok false, settings, s)
    | (.ok (some record), s) =>
      if record.version ≤ settings.version then (.ok false, settings, s)
      else (.ok true, ⟨record⟩, s)
  else (.ok false, settings, s)

end ConnectionSettings

end MultiWallet
