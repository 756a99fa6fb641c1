import MultiWallet.Config
import MultiWallet.Connection.Settings
import MultiWallet.Registry.Progress
import MultiWallet.Wallet.Controller

/-!
The registry: the engine's session and all that came of it. Currencies are
registered when their network is discovered, managers and wallets when the
engine reports them. What came of a session goes with it.
-/

namespace MultiWallet

structure Registry where
  config : Config
  lifecycle : Lifecycle
  session : Option EngineSession
  catalog : Catalog
  currencies : Table CurrencyId Currency
  /-- The managers, by the ids of their networks. -/
  managers : Table String EngineManager
  wallets : Table CurrencyId WalletController
  settings : Option ConnectionSettings
  progress : SyncProgress

/-- What an operation of the registry leaves. -/
structure Turn (W α : Type) where
  answer : Except RegistryError α
  registry : Registry
  outside : Outside W

namespace Turn

variable {W α β : Type}

def map (f : α → β) (turn : Turn W α) : Turn W β :=
  ⟨turn.answer.map f, turn.registry, turn.outside⟩

end Turn

namespace Registry

variable {W α : Type}

def fresh (config : Config) : Registry :=
  ⟨config, .uninitialized, none, .empty, ∅, ∅, ∅, none, .empty⟩

/-- An operation that fails without effect. -/
def refuse (registry : Registry) (outside : Outside W) (error : RegistryError) : Turn W α :=
  ⟨.error error, registry, outside⟩

/-- An operation that fails without effect because of the stage of life. -/
def refuseStage (registry : Registry) (outside : Outside W) (operation : String) : Turn W α :=
  registry.refuse outside (.lifecycle operation registry.lifecycle)

/-- The session, if the registry is at one of some stages. -/
def sessionAt? (registry : Registry) (stages : List Lifecycle) : Option EngineSession :=
  if registry.lifecycle ∈ stages then registry.session else none

/-- Whether managers are connected. -/
def isActive (registry : Registry) : Bool := registry.lifecycle == .active

/-- The registered currencies by ascending ids. -/
def currencyList (registry : Registry) : List Currency := registry.currencies.toList.map (·.2)

/-- The managers by ascending network ids. -/
def managerList (registry : Registry) : List EngineManager := registry.managers.toList.map (·.2)

def currenciesOf (registry : Registry) (network : String) : List CurrencyId :=
  (registry.currencyList.filter (·.networkId == network)).map (·.uid)

/-- The networks that are asked for and have no manager yet. -/
def undiscovered (registry : Registry) : List String :=
  registry.config.requiredNetworks.filter (!registry.managers.contains ·)

/-- Tells every manager the commands that are meant for it. -/
def commandManagers (host : Host W) (registry : Registry)
    (commands : EngineManager → List ManagerCommand) (outside : Outside W) : Outside W :=
  registry.managerList.foldl
    (fun outside manager => outside.commandAll host manager (commands manager)) outside

/-- Publishes one change for every currency of a network. -/
def publishTo (registry : Registry) (network : String) (change : WalletChange)
    (outside : Outside W) : Outside W :=
  outside.publishAll ((registry.currenciesOf network).map (.walletChanged · change))

def closeReceipts (registry : Registry) (outside : Outside W) : Outside W :=
  registry.wallets.toList.foldl
    (fun outside (_, controller) => WalletController.closePending controller.pending outside)
    outside

/-- The commands that bring a manager into another mode. -/
def switchTo (mode : ManagerMode) (reconnect : Bool) : List ManagerCommand :=
  [.disconnect, .setMode mode] ++ if reconnect then [.connect] else []

end Registry

end MultiWallet
