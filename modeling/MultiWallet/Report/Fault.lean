import MultiWallet.Asset.Collection
import MultiWallet.Config
import MultiWallet.Registry.Error

/-!
How errors are reported: every error has a kind, and a wording unless the wording
would be that of a library.
-/

namespace MultiWallet

class Fault (ε : Type) where
  kind : ε → String
  message? : ε → Option String

instance : Fault ConfigError where
  kind
    | .read => "Config.Read"
    | .parse => "Config.Parse"
    | .invalid _ => "Config.Invalid"
  message? := ConfigError.message?

instance : Fault CatalogError where
  kind
    | .http => "Catalog.HttpError"
    | .status _ => "Catalog.Status"
    | .json => "Catalog.JsonError"
    | .io => "Catalog.IoError"
    | .noCatalog _ => "Catalog.NoCatalog"
  message? := CatalogError.message?

instance : Fault ReplicaError where
  kind
    | .serialization => "Replica.Serialization"
    | .io _ => "Replica.Io"
    | .encoding _ _ => "Replica.Encoding"
    | .invalidKey _ => "Replica.InvalidKey"
    | .unavailable _ => "Replica.Unavailable"
  message? := ReplicaError.message?

instance : Fault AssetError where
  kind
    | .alreadyEnabled _ => "Asset.AlreadyEnabled"
    | .notEnabled _ => "Asset.NotEnabled"
    | .unknownAsset _ => "Asset.UnknownAsset"
    | .indexOutOfBounds _ _ => "Asset.IndexOutOfBounds"
  message? fault := some fault.message

instance : Fault DraftError where
  kind
    | .invalidAddress _ => "CreateTransfer.InvalidAddress"
    | .invalidAmountOrFee => "CreateTransfer.InvalidAmountOrFee"
  message? fault := some fault.message

instance : Fault EngineError where
  kind
    | .failed _ => "Engine.Failed"
    | .unsupportedMode _ _ => "Engine.UnsupportedMode"
  message? fault := some fault.message

instance : Fault IoError where
  kind
    | .invalidInput _ => "InvalidInput"
    | _ => "Io"
  message?
    | .invalidInput reason => some reason
    | _ => none

instance : Fault Violation where
  kind
    | .duplicateManager _ => "Invariant.DuplicateManager"
    | .duplicateController _ => "Invariant.DuplicateController"
    | .duplicateCurrency _ => "Invariant.DuplicateCurrency"
    | .missingMetadata _ => "Invariant.MissingMetadata"
    | .missingUnits _ => "Invariant.MissingUnits"
    | .unknownCurrency _ => "Invariant.UnknownCurrency"
    | .missingController _ => "Invariant.MissingController"
    | .sendAlreadyPending _ _ => "Invariant.SendAlreadyPending"
  message? broken := some broken.message

/-- An error of the registry that comes from elsewhere has the kind that it has
there. -/
instance : Fault RegistryError where
  kind
    | .lifecycle _ _ => "InvalidLifecycle"
    | .violation broken => Fault.kind broken
    | .catalog fault => Fault.kind fault
    | .replica fault => Fault.kind fault
    | .engine fault => Fault.kind fault
    | .draft fault => Fault.kind fault
    | .io _ => "Io"
    | .unknownNetwork _ => "UnknownNetwork"
    | .unknownWallet _ => "UnknownWallet"
    | .queueClosed => "QueueClosed"
  message? := RegistryError.message?

end MultiWallet
