import MultiWallet.Engine.Mode
import MultiWallet.Engine.Network
import MultiWallet.Engine.Transfer

/-!
What the engine reports. Its sessions, managers and wallets are known by handles:
a number that the engine chooses, and what never changes about them.
-/

namespace MultiWallet

structure EngineSession where
  number : Nat
deriving DecidableEq

structure EngineManager where
  number : Nat
  network : Network

structure EngineWallet where
  number : Nat
  currency : EngineCurrency
deriving DecidableEq

/-- Events about a session as a whole. -/
inductive SystemEvent where
  | created
  /-- A network was discovered. -/
  | networkAdded (network : Network)
  /-- A manager that was asked for is ready. -/
  | managerAdded (manager : EngineManager)

inductive ManagerEvent where
  | created
  | changed (old new : ManagerState)
  | deleted
  | walletAdded (wallet : EngineWallet)
  | walletChanged (wallet : EngineWallet)
  | walletDeleted (wallet : EngineWallet)
  | syncStarted
  | syncProgress (percent : Float) (timestamp : Option Instant)
  /-- The sync is over, because of an error if there is one. -/
  | syncEnded (error : Option String)
  | blockUpdated (height : Nat)

inductive WalletEvent where
  | created
  | changed
  | deleted
  | transferAdded (transfer : Transfer)
  | transferChanged (transfer : Transfer)
  | transferDeleted (transfer : Transfer)
  /-- What became of a submission. -/
  | transferSubmitted (transfer : Transfer) (success : Bool)
  | balanceUpdated (balance : Amount)
  | feeBasisUpdated
deriving DecidableEq

inductive TransferEvent where
  | created
  | changed (old new : TransferState)
  | deleted
deriving DecidableEq

/-- All that the engine reports, with what it is about. -/
inductive EngineEvent where
  | system (event : SystemEvent)
  | manager (manager : EngineManager) (event : ManagerEvent)
  | wallet (manager : EngineManager) (wallet : EngineWallet) (event : WalletEvent)
  | transfer (manager : EngineManager) (wallet : EngineWallet) (transfer : Transfer)
      (event : TransferEvent)

end MultiWallet
