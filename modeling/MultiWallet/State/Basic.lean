import MultiWallet.State.Action

/-!
The application's view of the wallets, built from the actions that are
published. An action about a wallet that is not there changes nothing.
-/

namespace MultiWallet

structure WalletState where
  currency : Currency
  syncState : SyncState
  /-- Percent of the running sync. -/
  progress : Float
  lastBlock : Option Instant
  isRescanning : Bool
  balance : Option Amount
  transfers : List Transfer

namespace WalletState

def fresh (currency : Currency) : WalletState := ⟨currency, .connecting, 0, none, false, none, []⟩

/-- A wallet after a change. Every state of synchronization but the running one
ends a rescan, and success completes the progress. -/
def apply (wallet : WalletState) : WalletChange → WalletState
  | .syncState state =>
    { wallet with
      syncState := state
      isRescanning := wallet.isRescanning && state == .syncing
      progress := if state = .success then 100 else wallet.progress }
  | .syncProgress percent timestamp =>
    { wallet with progress := percent, lastBlock := timestamp.or wallet.lastBlock }
  | .rescanning isRescanning => { wallet with isRescanning }
  | .balance balance => { wallet with balance := some balance }
  | .transfers transfers => { wallet with transfers }

end WalletState

structure AppState where
  /-- All registered currencies. -/
  currencies : List Currency
  wallets : Table CurrencyId WalletState

namespace AppState

def empty : AppState := ⟨[], ∅⟩

def apply (state : AppState) : StateAction → AppState
  | .currenciesUpdated currencies => { state with currencies }
  | .walletAdded currency balance transfers =>
    { state with
      wallets := state.wallets.insert currency.uid
        { WalletState.fresh currency with balance := some balance, transfers } }
  | .walletRemoved uid => { state with wallets := state.wallets.erase uid }
  | .walletChanged uid change =>
    match state.wallets[uid]? with
    | none => state
    | some wallet => { state with wallets := state.wallets.insert uid (wallet.apply change) }
  | .reset => empty

def applyAll (state : AppState) (actions : List StateAction) : AppState :=
  actions.foldl apply state

end AppState

end MultiWallet
