import MultiWallet.Registry.Command

/-!
What the registry makes of the engine's events and of notices about the store.
An event that contradicts what is registered is a violation and has no effect;
without a session all events are dropped.
-/

namespace MultiWallet

/-- All that the registry is given to handle. -/
inductive Input where
  | command (command : Command)
  | event (event : EngineEvent)
  | notice (notice : Notice)

namespace Registry

variable {W : Type}

/-- The currencies that a network's own make with the catalog, behind some that
were made already. -/
def enlist (registry : Registry) (network : Network) :
    List Currency → List EngineCurrency → Except Violation (List Currency)
  | made, [] => .ok made
  | made, core :: rest =>
    match registry.catalog.get? core.uid with
    | none => .error (.missingMetadata core.uid)
    | some entry =>
      if registry.currencies.contains core.uid || made.any (·.uid == core.uid) then
        .error (.duplicateCurrency core.uid)
      else
        match Currency.make? core network entry with
        | none => .error (.missingUnits core.uid)
        | some currency => registry.enlist network (made ++ [currency]) rest

/-- The mode for a new network: the chosen one, or what the engine thinks best if
that one is not supported. -/
def modeForNetwork (host : Host W) (session : EngineSession) (network : Network)
    (registry : Registry) (outside : Outside W) : ManagerMode × Registry × Outside W :=
  let supported := host.supports session network outside.world
  match registry.settings with
  | none =>
    let mode := host.defaultMode session network outside.world
    (mode, registry, outside)
  | some settings =>
    match settings.modeFor (Outside.store host) network.currency supported outside with
    | (mode, settings, outside) =>
      let registry := { registry with settings := some settings }
      if host.supports session network outside.world mode then (mode, registry, outside)
      else (host.defaultMode session network outside.world, registry, outside)

def register (registry : Registry) (made : List Currency) : Registry :=
  { registry with
    currencies := made.foldl (fun table currency => table.insert currency.uid currency)
      registry.currencies }

/-- Registers the currencies of a discovered network and asks for its manager. A
network of the other family is ignored. -/
def addNetwork (host : Host W) (network : Network) (registry : Registry) (outside : Outside W) :
    Turn W Unit :=
  if network.isMainnet ≠ registry.config.networkClass.isMainnet then ⟨.ok (), registry, outside⟩
  else
    match registry.session with
    | none => registry.refuseStage outside "add network"
    | some session =>
      match registry.enlist network [] network.currencies with
      | .error broken => registry.refuse outside (.violation broken)
      | .ok made =>
        let registry := registry.register made
        let outside := outside.publish (.currenciesUpdated registry.currencyList)
        match registry.modeForNetwork host session network outside with
        | (mode, registry, outside) =>
          match outside.createManager host session network mode (made.map (·.uid)) with
          | (answer, outside) => ⟨answer.mapError .engine, registry, outside⟩

/-- Registers the manager of a network, and connects it while the registry is
active. -/
def addManager (host : Host W) (manager : EngineManager) (registry : Registry)
    (outside : Outside W) : Turn W Unit :=
  let network := manager.network.id
  if registry.managers.contains network then
    registry.refuse outside (.violation (.duplicateManager network))
  else
    ⟨.ok (), { registry with managers := registry.managers.insert network manager },
      if registry.isActive then outside.command host manager .connect else outside⟩

/-- Registers a wallet of a registered currency. -/
def addWallet (host : Host W) (manager : EngineManager) (wallet : EngineWallet)
    (registry : Registry) (outside : Outside W) : Turn W Unit :=
  let uid := wallet.currency.uid
  if registry.wallets.contains uid then
    registry.refuse outside (.violation (.duplicateController uid))
  else
    match registry.currencies[uid]? with
    | none => registry.refuse outside (.violation (.unknownCurrency uid))
    | some currency =>
      let controller := WalletController.fresh currency wallet manager
      let action := StateAction.walletAdded currency (controller.balance host outside.world)
        (controller.transfers host outside.world)
      ⟨.ok (), registry.withWallet uid controller, outside.publish action⟩

def removeWallet (wallet : EngineWallet) (registry : Registry) (outside : Outside W) :
    Turn W Unit :=
  let uid := wallet.currency.uid
  match registry.wallets[uid]? with
  | none => registry.refuse outside (.violation (.missingController uid))
  | some controller =>
    let outside := WalletController.closePending controller.pending outside
    ⟨.ok (), { registry with wallets := registry.wallets.erase uid },
      outside.publish (.walletRemoved uid)⟩

def handleSystem (host : Host W) (event : SystemEvent) (registry : Registry)
    (outside : Outside W) : Turn W Unit :=
  match event with
  | .created => ⟨.ok (), registry, outside⟩
  | .networkAdded network => registry.addNetwork host network outside
  | .managerAdded manager => registry.addManager host manager outside

/-- Handles an event about a manager. The state of synchronization is published
for every currency of its network. -/
def handleManager (host : Host W) (manager : EngineManager) (event : ManagerEvent)
    (registry : Registry) (outside : Outside W) : Turn W Unit :=
  let network := manager.network.id
  match event with
  | .walletAdded wallet => registry.addWallet host manager wallet outside
  | .walletDeleted wallet => registry.removeWallet wallet outside
  | .syncStarted =>
    let (progress, lines) := registry.progress.recordStart network (host.now outside.world)
    ⟨.ok (), { registry with progress },
      registry.publishTo network (.syncState .syncing) (outside.logAll lines)⟩
  | .syncProgress percent timestamp =>
    let (progress, lines) := registry.progress.recordReport network percent timestamp
    ⟨.ok (), { registry with progress },
      registry.publishTo network (.syncProgress percent timestamp) (outside.logAll lines)⟩
  | .syncEnded error =>
    let (progress, lines) := registry.progress.recordEnd network error (host.now outside.world)
    let state := if error.isNone then SyncState.success else .connecting
    ⟨.ok (), { registry with progress },
      registry.publishTo network (.syncState state) (outside.logAll lines)⟩
  | .blockUpdated height =>
    ⟨.ok (), { registry with progress := registry.progress.recordBlock network height }, outside⟩
  | .created | .changed _ _ | .deleted | .walletChanged _ => ⟨.ok (), registry, outside⟩

def withController (wallet : EngineWallet)
    (handle : WalletController → Outside W → WalletController × Outside W) (registry : Registry)
    (outside : Outside W) : Turn W Unit :=
  let uid := wallet.currency.uid
  match registry.wallets[uid]? with
  | none => registry.refuse outside (.violation (.unknownCurrency uid))
  | some controller =>
    let (controller, outside) := handle controller outside
    ⟨.ok (), registry.withWallet uid controller, outside⟩

def handleWallet (host : Host W) (wallet : EngineWallet) (event : WalletEvent)
    (registry : Registry) (outside : Outside W) : Turn W Unit :=
  match event with
  | .created | .changed | .deleted => ⟨.ok (), registry, outside⟩
  | event => registry.withController wallet (·.heedWalletEvent host event ·) outside

/-- Handles an event while there is a session. -/
def dispatch (host : Host W) (event : EngineEvent) (registry : Registry) (outside : Outside W) :
    Turn W Unit :=
  match event with
  | .system event => registry.handleSystem host event outside
  | .manager manager event => registry.handleManager host manager event outside
  | .wallet _ wallet event => registry.handleWallet host wallet event outside
  | .transfer _ wallet transfer event =>
    registry.withController wallet (·.heedTransferEvent host transfer.id event ·) outside

def handleEvent (host : Host W) (event : EngineEvent) (registry : Registry)
    (outside : Outside W) : Turn W Unit :=
  if registry.lifecycle = .uninitialized then ⟨.ok (), registry, outside⟩
  else registry.dispatch host event outside

/-- The commands that bring a manager into the mode that was chosen elsewhere, if
it runs in another one and supports that one. -/
def adoption (host : Host W) (session : EngineSession) (settings : ConnectionSettings)
    (reconnect : Bool) (world : W) (manager : EngineManager) : List ManagerCommand :=
  match settings.mode? manager.network.currency with
  | none => []
  | some mode =>
    if mode ≠ host.modeOf manager world && host.supports session manager.network world mode then
      switchTo mode reconnect
    else []

/-- Handles a notice about the store. Modes that were chosen elsewhere are brought
into effect. -/
def handleNotice (host : Host W) (notice : Notice) (registry : Registry) (outside : Outside W) :
    Turn W Unit :=
  match registry.settings with
  | none => ⟨.ok (), registry, outside⟩
  | some settings =>
    match settings.heed (Outside.store host) notice outside with
    | (.error fault, settings, outside) =>
      ⟨.error (.replica fault), { registry with settings := some settings }, outside⟩
    | (.ok changed, settings, outside) =>
      let registry := { registry with settings := some settings }
      match changed, registry.session with
      | true, some session =>
        let adopt (outside : Outside W) (manager : EngineManager) : Outside W :=
          outside.commandAll host manager
            (adoption host session settings registry.isActive outside.world manager)
        ⟨.ok (), registry, registry.managerList.foldl adopt outside⟩
      | _, _ => ⟨.ok (), registry, outside⟩

def handle (host : Host W) (input : Input) (registry : Registry) (outside : Outside W) :
    Turn W Reply :=
  match input with
  | .command command => registry.execute host command outside
  | .event event => (registry.handleEvent host event outside).map fun () => .done
  | .notice notice => (registry.handleNotice host notice outside).map fun () => .done

end Registry

end MultiWallet
