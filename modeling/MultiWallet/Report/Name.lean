import MultiWallet.Engine.Mode
import MultiWallet.Engine.Transfer
import MultiWallet.NetworkClass
import MultiWallet.Registry.Error
import MultiWallet.State.Action

/-!
The names under which the members of enumerations are reported and looked up.
-/

namespace MultiWallet

/-- Types whose members have names. -/
class Named (α : Type) where
  /-- The members that are looked up by name. -/
  all : List α
  name : α → String

def Named.find? {α : Type} [Named α] (name : String) : Option α :=
  (Named.all (α := α)).find? fun member => Named.name member == name

instance : Named NetworkClass where
  all := [.mainnet, .testnet]
  name
    | .mainnet => "mainnet"
    | .testnet => "testnet"

instance : Named ManagerMode := ⟨ManagerMode.all, ManagerMode.text⟩

instance : Named Lifecycle := ⟨[.uninitialized, .idle, .active], Lifecycle.name⟩

instance : Named SyncDepth where
  all := [.lastConfirmedSend, .lastTrustedBlock, .creation]
  name
    | .lastConfirmedSend => "last_confirmed_send"
    | .lastTrustedBlock => "last_trusted_block"
    | .creation => "creation"

instance : Named TokenType where
  all := [.native, .erc20, .unknown]
  name
    | .native => "native"
    | .erc20 => "erc20"
    | .unknown => "unknown"

instance : Named TransferDirection where
  all := [.sent, .received, .recovered]
  name
    | .sent => "sent"
    | .received => "received"
    | .recovered => "recovered"

/-- A failed transfer has a reason and is not looked up. -/
instance : Named TransferState where
  all := [.created, .signed, .submitted, .pending, .included, .deleted]
  name
    | .created => "created"
    | .signed => "signed"
    | .submitted => "submitted"
    | .pending => "pending"
    | .included => "included"
    | .failed _ => "failed"
    | .deleted => "deleted"

/-- A manager that is disconnected may have a reason and is not looked up. -/
instance : Named ManagerState where
  all := [.created, .connected, .syncing, .deleted]
  name
    | .created => "created"
    | .disconnected _ => "disconnected"
    | .connected => "connected"
    | .syncing => "syncing"
    | .deleted => "deleted"

instance : Named SyncState where
  all := [.connecting, .syncing, .success]
  name
    | .connecting => "connecting"
    | .syncing => "syncing"
    | .success => "success"

end MultiWallet
