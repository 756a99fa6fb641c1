import MultiWallet.Decimal.Fixed
import MultiWallet.Engine.Event
import MultiWallet.Text.Description
import MultiWallet.Time.Rfc3339

/-!
The engine's events in diagnostics. Events about wallets and transfers show all
their parts; those about a session or a manager are phrased.
-/

namespace MultiWallet

def Amount.description (amount : Amount) : String :=
  Description.record "Amount" [
    ("base_units", toString amount.units),
    ("currency", Description.wrap "CurrencyId" (Text.quoted amount.currency.text))]

def ManagerState.description : ManagerState → String
  | created => "Created"
  | disconnected reason =>
    Description.record "Disconnected" [("reason", Description.optional Text.quoted reason)]
  | connected => "Connected"
  | syncing => "Syncing"
  | deleted => "Deleted"

def TransferState.description : TransferState → String
  | created => "Created"
  | signed => "Signed"
  | submitted => "Submitted"
  | pending => "Pending"
  | included => "Included"
  | failed reason => Description.record "Failed" [("reason", Text.quoted reason)]
  | deleted => "Deleted"

def TransferDirection.description : TransferDirection → String
  | sent => "Sent"
  | received => "Received"
  | recovered => "Recovered"

def TransferHash.description (hash : TransferHash) : String :=
  Description.wrap "TransferHash"
    (Description.row (hash.bytes.map fun byte => toString byte.toNat))

def Transfer.description (transfer : Transfer) : String :=
  Description.record "Transfer" [
    ("id", Description.wrap "TransferId" (Text.quoted transfer.id.text)),
    ("hash", Description.optional TransferHash.description transfer.hash),
    ("state", transfer.state.description),
    ("direction", transfer.direction.description),
    ("amount", transfer.amount.description),
    ("timestamp", Description.optional Instant.text transfer.timestamp),
    ("target", Description.wrap "Address" (Text.quoted transfer.target.text))]

namespace SystemEvent

def text : SystemEvent → String
  | created => "system created"
  | networkAdded network => "network added: " ++ network.id
  | managerAdded manager => "manager added: " ++ manager.network.id

end SystemEvent

namespace ManagerEvent

def text : ManagerEvent → String
  | created => "created"
  | changed old new => "changed " ++ old.description ++ " -> " ++ new.description
  | deleted => "deleted"
  | walletAdded wallet => "wallet added: " ++ wallet.currency.uid.text
  | walletChanged wallet => "wallet changed: " ++ wallet.currency.uid.text
  | walletDeleted wallet => "wallet deleted: " ++ wallet.currency.uid.text
  | syncStarted => "sync started"
  | syncProgress percent _ => "sync progress " ++ Decimal.oneDecimal percent ++ "%"
  | syncEnded none => "sync ended"
  | syncEnded (some error) => "sync ended with error: " ++ error
  | blockUpdated height => "block updated: " ++ toString height

end ManagerEvent

namespace WalletEvent

def description : WalletEvent → String
  | created => "Created"
  | changed => "Changed"
  | deleted => "Deleted"
  | transferAdded transfer => Description.wrap "TransferAdded" transfer.description
  | transferChanged transfer => Description.wrap "TransferChanged" transfer.description
  | transferDeleted transfer => Description.wrap "TransferDeleted" transfer.description
  | transferSubmitted transfer success =>
    Description.record "TransferSubmitted" [
      ("transfer", transfer.description), ("success", Description.truth success)]
  | balanceUpdated balance => Description.wrap "BalanceUpdated" balance.description
  | feeBasisUpdated => "FeeBasisUpdated"

end WalletEvent

namespace TransferEvent

def description : TransferEvent → String
  | created => "Created"
  | changed old new =>
    Description.record "Changed" [("old", old.description), ("new", new.description)]
  | deleted => "Deleted"

end TransferEvent

namespace EngineEvent

def text : EngineEvent → String
  | .system event => "[system] " ++ event.text
  | .manager source event => "[manager " ++ source.network.id ++ "] " ++ event.text
  | .wallet _ source event =>
    "[wallet " ++ source.currency.uid.text ++ "] " ++ event.description
  | .transfer _ source subject event =>
    "[transfer " ++ source.currency.uid.text ++ " " ++ subject.id.text ++ "] "
      ++ event.description

end EngineEvent

end MultiWallet
