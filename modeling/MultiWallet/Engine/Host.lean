import MultiWallet.Catalog.Source
import MultiWallet.Engine.Event
import MultiWallet.Replica.Store

/-!
The world around a registry, as far as the registry can tell: an engine with its
sessions, managers and wallets, a store, a source of catalogs and the engine's
directory. Nothing is assumed about what the world answers.
-/

namespace MultiWallet

inductive EngineError where
  | failed (reason : String)
  | unsupportedMode (network : String) (mode : ManagerMode)
deriving DecidableEq

def EngineError.message : EngineError → String
  | failed reason => "Engine error: " ++ reason
  | unsupportedMode network mode =>
    "Unsupported mode " ++ mode.text ++ " for network " ++ network

inductive ManagerCommand where
  | connect
  | disconnect
  | setMode (mode : ManagerMode)
  | syncToDepth (depth : SyncDepth)
  | submit (wallet : EngineWallet) (transfer : Transfer) (secret : Bytes)
deriving DecidableEq

inductive EngineCall where
  | createSession (account : String) (mainnet : Bool) (directory : String)
  | start (networks : List String)
  | stop
  | createManager (network : Network) (mode : ManagerMode) (currencies : List CurrencyId)

/-- The world around a registry, with states `W`. What a session, a manager or a
wallet reports later arrives as events. -/
structure Host (W : Type) where
  now : W → Instant
  store : Store W
  refreshCatalog : W → Except CatalogError Catalog × W
  /-- Makes the directory that is left to the engine. -/
  makeDirectory : W → Except IoError Unit × W
  /-- Removes that directory as far as possible. -/
  removeDirectory : W → W
  /-- Opens a session for an account, on networks of value or not, in a directory. -/
  createSession : String → Bool → String → W → Except EngineError EngineSession × W
  /-- Begins to discover networks. -/
  start : EngineSession → List String → W → W
  stop : EngineSession → W → W
  supports : EngineSession → Network → W → ManagerMode → Bool
  defaultMode : EngineSession → Network → W → ManagerMode
  /-- Asks for a manager for some currencies of a network. -/
  createManager : EngineSession → Network → ManagerMode → List CurrencyId → W →
    Except EngineError Unit × W
  modeOf : EngineManager → W → ManagerMode
  stateOf : EngineManager → W → ManagerState
  command : EngineManager → ManagerCommand → W → W
  balanceOf : EngineWallet → W → Amount
  transfersOf : EngineWallet → W → List Transfer
  receiveAddress : EngineWallet → W → Address
  /-- Reads an address for the wallet's network. -/
  addressOf? : EngineWallet → String → W → Option Address
  /-- Drafts a transfer, unless the amount or the fee does not do. -/
  draft : EngineWallet → Address → Amount → FeeBasis → W → Option Transfer × W
  /-- Takes the events that the engine reported since they were taken last. -/
  takeEvents : W → List EngineEvent × W

end MultiWallet
