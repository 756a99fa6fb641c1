import MultiWallet.Currency.Registered
import MultiWallet.Engine.Transfer

/-!
Changes to the application's view of the wallets. Those that concern one wallet
name its currency.
-/

namespace MultiWallet

inductive SyncState where
  | connecting
  | syncing
  | success
deriving DecidableEq

inductive WalletChange where
  | syncState (state : SyncState)
  | syncProgress (percent : Float) (timestamp : Option Instant)
  | rescanning (isRescanning : Bool)
  | balance (balance : Amount)
  | transfers (transfers : List Transfer)

inductive StateAction where
  | currenciesUpdated (currencies : List Currency)
  | walletAdded (currency : Currency) (balance : Amount) (transfers : List Transfer)
  | walletRemoved (uid : CurrencyId)
  | walletChanged (uid : CurrencyId) (change : WalletChange)
  | reset

namespace StateAction

/-- The change of a wallet's synchronization that an action makes, by the kind of
the change. -/
def syncKind? : StateAction → Option Nat
  | walletChanged _ (.syncState _) => some 0
  | walletChanged _ (.syncProgress _ _) => some 1
  | walletChanged _ (.rescanning _) => some 2
  | _ => none

def uidText : StateAction → String
  | walletChanged uid _ => uid.text
  | _ => ""

/-- Whether an action may stand before another one when a row is sorted by
currency. -/
def uidLE (left right : StateAction) : Bool := (compare left.uidText right.uidText).isLE

/-- Rows of actions of one kind, each sorted by currency if the kind is one of
synchronization. -/
def sortedRuns (actions : List StateAction) : List StateAction :=
  (actions.splitBy fun left right => left.syncKind? == right.syncKind?).flatMap fun run =>
    if run.any (·.syncKind?.isSome) then run.mergeSort uidLE else run

end StateAction

end MultiWallet
