import MultiWallet.Registry.Life

/-!
What callers ask of the registry. An operation that is refused because of the
stage of life, or because it names a network or a wallet that is not there, has
no effect.
-/

namespace MultiWallet

structure Snapshot where
  lifecycle : Lifecycle
  currencies : List CurrencyId
  managers : List String
  wallets : List CurrencyId
deriving DecidableEq

inductive Command where
  | create (account : String)
  | connect
  | disconnect
  | shutdown
  | setMode (network : String) (mode : ManagerMode)
  | rescan (network : String) (depth : SyncDepth)
  | updateConnections (enabled : List CurrencyId)
  | draft (uid : CurrencyId) (address : String) (amount : Amount) (fee : FeeBasis)
  | submit (uid : CurrencyId) (transfer : Transfer) (secret : Bytes)
  | unsubscribe (uid : CurrencyId) (transfer : TransferId)
  | snapshot
deriving DecidableEq

/-- What a request that does not fail is answered. -/
inductive Reply where
  | done
  | drafted (transfer : Transfer)
  | receipt (id : ReceiptId)
  | flag (value : Bool)
  | snapshot (contents : Snapshot)
deriving DecidableEq

namespace Registry

variable {W : Type}

def snapshot (registry : Registry) : Snapshot where
  lifecycle := registry.lifecycle
  currencies := registry.currencyList.map (·.uid)
  managers := registry.managers.keys
  wallets := registry.wallets.keys

/-- Brings the manager of a network into another mode, and remembers the choice. -/
def setMode (host : Host W) (network : String) (mode : ManagerMode) (registry : Registry)
    (outside : Outside W) : Turn W Unit :=
  match registry.sessionAt? [.idle, .active] with
  | none => registry.refuseStage outside "set connection mode"
  | some session =>
    match registry.managers[network]? with
    | none => registry.refuse outside (.unknownNetwork network)
    | some manager =>
      if host.supports session manager.network outside.world mode then
        let outside := outside.commandAll host manager (switchTo mode registry.isActive)
        match registry.settings with
        | none => ⟨.ok (), registry, outside⟩
        | some settings =>
          match settings.choose (Outside.store host) manager.network.currency mode outside with
          | (answer, settings, outside) =>
            ⟨answer.mapError .replica, { registry with settings := some settings }, outside⟩
      else registry.refuse outside (.engine (.unsupportedMode network mode))

def rescan (host : Host W) (network : String) (depth : SyncDepth) (registry : Registry)
    (outside : Outside W) : Turn W Unit :=
  if registry.lifecycle = .active then
    match registry.managers[network]? with
    | none => registry.refuse outside (.unknownNetwork network)
    | some manager =>
      let outside := outside.commandAll host manager [.connect, .syncToDepth depth]
      ⟨.ok (), registry, registry.publishTo network (.rescanning true) outside⟩
  else registry.refuseStage outside "rescan"

/-- Connects the managers whose networks list an enabled currency, and disconnects
the others. -/
def updateConnections (host : Host W) (enabled : List CurrencyId) (registry : Registry)
    (outside : Outside W) : Turn W Unit :=
  if registry.lifecycle = .active then
    let commands (manager : EngineManager) : List ManagerCommand :=
      [if enabled.any manager.network.lists then .connect else .disconnect]
    ⟨.ok (), registry, registry.commandManagers host commands outside⟩
  else registry.refuseStage outside "update manager connections"

def draft (host : Host W) (uid : CurrencyId) (address : String) (amount : Amount) (fee : FeeBasis)
    (registry : Registry) (outside : Outside W) : Turn W Transfer :=
  match registry.wallets[uid]? with
  | none => registry.refuse outside (.unknownWallet uid)
  | some controller =>
    match controller.draft host address amount fee outside with
    | (answer, outside) => ⟨answer.mapError .draft, registry, outside⟩

def withWallet (registry : Registry) (uid : CurrencyId) (controller : WalletController) :
    Registry :=
  { registry with wallets := registry.wallets.insert uid controller }

/-- Submits a transfer of a wallet, for a receipt. -/
def submit (host : Host W) (uid : CurrencyId) (transfer : Transfer) (secret : Bytes)
    (registry : Registry) (outside : Outside W) : Turn W ReceiptId :=
  match registry.wallets[uid]? with
  | none => registry.refuse outside (.unknownWallet uid)
  | some controller =>
    match controller.subscribe transfer.id outside with
    | .error broken => registry.refuse outside (.violation broken)
    | .ok (receipt, controller, outside) =>
      ⟨.ok receipt, registry.withWallet uid controller,
        controller.submit host transfer secret outside⟩

/-- Gives up the pending submission of a transfer. -/
def unsubscribe (uid : CurrencyId) (transfer : TransferId) (registry : Registry)
    (outside : Outside W) : Turn W Bool :=
  match registry.wallets[uid]? with
  | none => registry.refuse outside (.unknownWallet uid)
  | some controller =>
    match controller.unsubscribe transfer outside with
    | (answer, controller, outside) =>
      ⟨.ok answer, registry.withWallet uid controller, outside⟩

def execute (host : Host W) (command : Command) (registry : Registry) (outside : Outside W) :
    Turn W Reply :=
  match command with
  | .create account => (registry.create host account outside).map fun () => .done
  | .connect => (registry.connect host outside).map fun () => .done
  | .disconnect => (registry.disconnect host outside).map fun () => .done
  | .shutdown => (registry.shutdown host outside).map fun () => .done
  | .setMode network mode => (registry.setMode host network mode outside).map fun () => .done
  | .rescan network depth => (registry.rescan host network depth outside).map fun () => .done
  | .updateConnections enabled =>
    (registry.updateConnections host enabled outside).map fun () => .done
  | .draft uid address amount fee =>
    (registry.draft host uid address amount fee outside).map .drafted
  | .submit uid transfer secret => (registry.submit host uid transfer secret outside).map .receipt
  | .unsubscribe uid transfer => (registry.unsubscribe uid transfer outside).map .flag
  | .snapshot => ⟨.ok (.snapshot registry.snapshot), registry, outside⟩

end Registry

end MultiWallet
