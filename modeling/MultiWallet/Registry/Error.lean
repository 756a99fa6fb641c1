import MultiWallet.Engine.Host
import MultiWallet.Wallet.Draft

/-!
What can go wrong with an operation of the registry.
-/

namespace MultiWallet

inductive Lifecycle where
  /-- There is no session. -/
  | uninitialized
  /-- There is a session, which is not connected. -/
  | idle
  | active
deriving DecidableEq

def Lifecycle.name : Lifecycle → String
  | uninitialized => "uninitialized"
  | idle => "idle"
  | active => "active"

/-- Something about the order or the content of events that cannot be. -/
inductive Violation where
  | duplicateManager (network : String)
  | duplicateController (uid : CurrencyId)
  | duplicateCurrency (uid : CurrencyId)
  | missingMetadata (uid : CurrencyId)
  | missingUnits (uid : CurrencyId)
  | unknownCurrency (uid : CurrencyId)
  | missingController (uid : CurrencyId)
  | sendAlreadyPending (uid : CurrencyId) (transfer : TransferId)
deriving DecidableEq

def Violation.message : Violation → String
  | duplicateManager network => "manager already exists for network " ++ network
  | duplicateController uid => "wallet controller already exists for " ++ uid.text
  | duplicateCurrency uid => "currency already registered: " ++ uid.text
  | missingMetadata uid => "no catalog metadata for " ++ uid.text
  | missingUnits uid => "network has no units for " ++ uid.text
  | unknownCurrency uid => "unknown currency " ++ uid.text
  | missingController uid => "no wallet controller for " ++ uid.text
  | sendAlreadyPending uid transfer =>
    "send already pending for " ++ uid.text ++ ": " ++ transfer.text

inductive RegistryError where
  | lifecycle (operation : String) (stage : Lifecycle)
  | violation (violation : Violation)
  | catalog (fault : CatalogError)
  | replica (fault : ReplicaError)
  | engine (fault : EngineError)
  | draft (fault : DraftError)
  | io (fault : IoError)
  | unknownNetwork (network : String)
  | unknownWallet (uid : CurrencyId)
  /-- The queue does not run any more. -/
  | queueClosed
deriving DecidableEq

namespace RegistryError

/-- The wording of an error, where it is this program's own. -/
def message? : RegistryError → Option String
  | lifecycle operation stage => some ("Cannot " ++ operation ++ " while " ++ stage.name)
  | violation broken => some ("Invariant violation: " ++ broken.message)
  | catalog fault => fault.message?.map ("Catalog error: " ++ ·)
  | replica fault => fault.message?.map ("Replica error: " ++ ·)
  | engine fault => some ("Engine error: " ++ fault.message)
  | draft fault => some ("Create transfer error: " ++ fault.message)
  | io _ => none
  | unknownNetwork network => some ("No manager for network " ++ network)
  | unknownWallet uid => some ("No wallet for " ++ uid.text)
  | queueClosed => some "Registry queue closed"

def isViolation : RegistryError → Bool
  | violation _ => true
  | _ => false

end RegistryError

end MultiWallet
