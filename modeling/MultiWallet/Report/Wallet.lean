import MultiWallet.Report.Name
import MultiWallet.State.Basic
import MultiWallet.Text.Hex

/-!
Reports on wallets, their transfers and the application's state as JSON.
Floating-point numbers are reported by their bits, amounts in decimal.
-/

namespace MultiWallet.Report

open Json (Value)

def optional {α : Type} (report : α → Value) (value : Option α) : Value := value.elim .null report

def list {α : Type} (report : α → Value) (values : List α) : Value := .array (values.map report)

def named {α : Type} [Named α] (value : α) : Value := .text (Named.name value)

def uid (uid : CurrencyId) : Value := .text uid.text

/-- An instant in milliseconds. -/
def time : Option Instant → Value := optional fun t => .integer t.toUnixMillis

/-- The bits of a floating-point number, except that all that are no numbers look the
same. -/
def bits (x : Float) : Value :=
  if x.isNaN then .text "nan"
  else .text <| Hex.encode <| (List.range 8).map fun i =>
    (x.toBits >>> (56 - 8 * i).toUInt64).toUInt8

def amount (amount : Amount) : Value :=
  .record [("units", .text (toString amount.units)), ("currency", uid amount.currency)]

def unit (unit : CurrencyUnit) : Value :=
  .array [.text unit.name, .text unit.symbol, .natural unit.decimals.toNat]

def transferState : TransferState → Value
  | .failed reason => .record [("failed", .text reason)]
  | state => named state

def transfer (transfer : Transfer) : Value :=
  .record [
    ("id", .text transfer.id.text),
    ("hash", optional (fun hash => .text hash.text) transfer.hash),
    ("state", transferState transfer.state),
    ("direction", named transfer.direction),
    ("amount", .text (toString transfer.amount.units)),
    ("currency", uid transfer.amount.currency),
    ("timestamp", time transfer.timestamp),
    ("target", .text transfer.target.text)]

def transferId (transfer : Transfer) : Value := .text transfer.id.text

def currency (currency : Currency) : Value :=
  .record [
    ("uid", uid currency.uid),
    ("code", .text currency.code),
    ("name", .text currency.name),
    ("type", named currency.tokenType),
    ("base", unit currency.baseUnit),
    ("default", unit currency.defaultUnit),
    ("network", .text currency.networkId),
    ("supported", .bool currency.isSupported),
    ("native", .bool currency.isNative),
    ("token_address", optional .text currency.entry.tokenAddress)]

def walletState (wallet : WalletState) : Value :=
  .record [
    ("code", .text wallet.currency.code),
    ("sync_state", named wallet.syncState),
    ("progress", bits wallet.progress),
    ("last_block", time wallet.lastBlock),
    ("rescanning", .bool wallet.isRescanning),
    ("balance", optional amount wallet.balance),
    ("transfers", list transfer wallet.transfers)]

def appState (state : AppState) : Value :=
  .record [
    ("currencies", list (fun currency => uid currency.uid) state.currencies),
    ("wallets", .record (state.wallets.toList.map fun (uid, wallet) =>
      (uid.text, walletState wallet)))]

/-- A change of a wallet: its kind and what it brings. -/
def walletChange : WalletChange → String × List (String × Value)
  | .syncState state => ("sync_state", [("state", named state)])
  | .syncProgress percent timestamp =>
    ("sync_progress", [("percent", bits percent), ("timestamp", time timestamp)])
  | .rescanning isRescanning => ("rescanning", [("on", .bool isRescanning)])
  | .balance balance => ("balance", [("balance", amount balance)])
  | .transfers transfers => ("transfers", [("transfers", list transferId transfers)])

/-- An action: its kind and what it brings. -/
def actionParts : StateAction → String × List (String × Value)
  | .currenciesUpdated currencies =>
    ("currencies_updated", [("uids", list (fun currency => uid currency.uid) currencies)])
  | .walletAdded currency balance transfers =>
    ("wallet_added", [("uid", uid currency.uid), ("balance", amount balance),
      ("transfers", list transferId transfers)])
  | .walletRemoved id => ("wallet_removed", [("uid", uid id)])
  | .walletChanged id change =>
    let (kind, parts) := walletChange change
    (kind, ("uid", uid id) :: parts)
  | .reset => ("reset", [])

def action (action : StateAction) : Value :=
  let (kind, parts) := actionParts action
  .record (("type", .text kind) :: parts)

/-- Actions in order, with rows of changes of one kind sorted. -/
def actions (actions : List StateAction) : Value := list action (StateAction.sortedRuns actions)

end MultiWallet.Report
