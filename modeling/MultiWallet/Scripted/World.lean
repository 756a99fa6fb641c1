import MultiWallet.Catalog.Cache
import MultiWallet.Config
import MultiWallet.Engine.Host
import MultiWallet.Scripted.Source
import MultiWallet.Scripted.Store

/-!
A world that follows a script: an engine that discovers the configured networks
and answers every request for a manager with the manager and its wallets, unless
it is told to refuse, and scripted stores and sources. Managers and wallets can
also be made up without a session; they are called strays.
-/

namespace MultiWallet

structure ScriptedManager where
  name : String
  /-- The session it belongs to, unless it is a stray. -/
  session : Option Nat
  network : Network
  mode : ManagerMode
  state : ManagerState

structure ScriptedWallet where
  session : Option Nat
  currency : EngineCurrency
  transfers : List Transfer
  balance : Nat
  refusesAmounts : Bool
  drafted : Nat

namespace ScriptedWallet

def fresh (session : Option Nat) (currency : EngineCurrency) : ScriptedWallet :=
  ⟨session, currency, [], 0, false, 0⟩

def draft (wallet : ScriptedWallet) (target : Address) (amount : Amount) :
    Option Transfer × ScriptedWallet :=
  if wallet.refusesAmounts then (none, wallet)
  else
    let id : TransferId := ⟨wallet.currency.code ++ "-tx-" ++ toString wallet.drafted⟩
    (some ⟨id, none, .signed, .sent, amount, none, target⟩,
      { wallet with drafted := wallet.drafted + 1 })

end ScriptedWallet

/-- What a wallet is told. What is left out stays as it is. -/
structure WalletScript where
  clears : Bool
  transfers : List Transfer
  balance : Option Nat
  refusesAmounts : Option Bool

def ScriptedWallet.configure (script : WalletScript) (wallet : ScriptedWallet) : ScriptedWallet :=
  { wallet with
    transfers := (if script.clears then [] else wallet.transfers) ++ script.transfers
    balance := script.balance.getD wallet.balance
    refusesAmounts := script.refusesAmounts.getD wallet.refusesAmounts }

structure EngineScript where
  networks : List Network
  /-- The modes that are not supported, everywhere or on one network. -/
  unsupported : List (Option String × ManagerMode)
  /-- Why no session can be created, if none can. -/
  sessionFault : Option String
  /-- The networks whose managers are refused. -/
  refusedManagers : List String

structure ScriptedWorld where
  clock : Instant
  store : ScriptedStore
  source : ScriptedSource
  cache : CatalogCache
  disk : Disk
  /-- The directory that is left to the engine. -/
  directory : DiskPath
  engine : EngineScript
  sessions : Nat
  managers : List ScriptedManager
  wallets : List ScriptedWallet
  /-- The events that were not taken yet. -/
  events : List EngineEvent

namespace ScriptedWorld

/-- A world for a configuration, in which nothing has happened. With a blocked data
directory nothing can be written. -/
def fresh (config : Config) (engine : EngineScript) (store : ScriptedStore)
    (source : ScriptedSource) (isBlocked : Bool) : ScriptedWorld where
  clock := .epoch
  store := store
  source := source
  cache := ⟨.ofText [] config.catalogFile, none, 0⟩
  disk := if isBlocked then Disk.blank.put (DiskPath.ofText [] config.dataDirectory).place
    (.file [] .epoch) else .blank
  directory := .ofText [] config.coreDirectory
  engine := engine
  sessions := 0
  managers := []
  wallets := []
  events := []

def newest? (world : ScriptedWorld) : Option Nat :=
  if world.sessions = 0 then none else some (world.sessions - 1)

def emit (world : ScriptedWorld) (events : List EngineEvent) : ScriptedWorld :=
  { world with events := world.events ++ events }

def supports (world : ScriptedWorld) (network : Network) (mode : ManagerMode) : Bool :=
  !world.engine.unsupported.any fun (place, refused) =>
    refused == mode && place.all (· == network.id)

/-- The first mode that is supported on a network. -/
def defaultMode (world : ScriptedWorld) (network : Network) : ManagerMode :=
  (ManagerMode.all.find? (world.supports network)).getD .apiOnly

/-- The number of managers that a session has, or of strays. -/
def managersOf (world : ScriptedWorld) (session : Option Nat) : Nat :=
  world.managers.countP (·.session == session)

/-- The name for the next manager of a session, or for a stray. -/
def managerName (world : ScriptedWorld) (session : Option Nat) (network : String) : String :=
  let number := toString (world.managersOf session)
  match session with
  | some session => "e" ++ toString session ++ "m" ++ number ++ ":" ++ network
  | none => "s" ++ number ++ ":" ++ network

def makeManager (world : ScriptedWorld) (session : Option Nat) (network : Network)
    (mode : ManagerMode) : EngineManager × ScriptedWorld :=
  (⟨world.managers.length, network⟩,
    { world with
      managers := world.managers
        ++ [⟨world.managerName session network.id, session, network, mode, .created⟩] })

def makeWallet (world : ScriptedWorld) (session : Option Nat) (currency : EngineCurrency) :
    EngineWallet × ScriptedWorld :=
  (⟨world.wallets.length, currency⟩,
    { world with wallets := world.wallets ++ [.fresh session currency] })

/-- Makes the wallets for some currencies, and reports each. -/
def makeWallets (session : Nat) (manager : EngineManager) (world : ScriptedWorld) :
    List EngineCurrency → ScriptedWorld
  | [] => world
  | currency :: rest =>
    let (wallet, world) := world.makeWallet (some session) currency
    makeWallets session manager (world.emit [.manager manager (.walletAdded wallet)]) rest

def provideManager (session : EngineSession) (network : Network) (mode : ManagerMode)
    (currencies : List CurrencyId) (world : ScriptedWorld) :
    Except EngineError Unit × ScriptedWorld :=
  if world.engine.refusedManagers.contains network.id then
    (.error (.failed ("no manager for " ++ network.id)), world)
  else
    let (manager, world) := world.makeManager (some session.number) network mode
    let asked := network.currencies.filter fun currency => currencies.contains currency.uid
    (.ok (), makeWallets session.number manager
      (world.emit [.system (.managerAdded manager)]) asked)

/-- The made-up network of a stray manager. -/
def strayNetwork (id : String) : Network := ⟨id, id, true, ⟨id ++ ":__native__"⟩, [], ∅⟩

/-- The newest session's first manager for a network, or else a stray. -/
def managerFor (world : ScriptedWorld) (network : String) : EngineManager × ScriptedWorld :=
  let fits (manager : ScriptedManager) : Bool :=
    manager.session.isSome && manager.session == world.newest? && manager.network.id == network
  match world.managers.findIdx? fits, world.managers.find? fits with
  | some number, some manager => (⟨number, manager.network⟩, world)
  | _, _ => world.makeManager none (strayNetwork network) .apiOnly

/-- The newest session's first wallet for a currency, if there is one. -/
def walletNumber? (world : ScriptedWorld) (uid : CurrencyId) : Option Nat :=
  world.wallets.findIdx? fun wallet =>
    wallet.session.isSome && wallet.session == world.newest? && wallet.currency.uid == uid

/-- The made-up currency of a stray wallet. -/
def strayCurrency (uid : CurrencyId) : EngineCurrency := ⟨uid, "stray", "stray", .unknown⟩

/-- The newest session's first wallet for a currency, or else a stray. -/
def walletFor (world : ScriptedWorld) (uid : CurrencyId) : EngineWallet × ScriptedWorld :=
  match world.walletNumber? uid with
  | some number =>
    let known := world.wallets[number]?.map (·.currency)
    (⟨number, known.getD (strayCurrency uid)⟩, world)
  | none => world.makeWallet none (strayCurrency uid)

def configureWallet (world : ScriptedWorld) (number : Nat) (script : WalletScript) :
    ScriptedWorld :=
  { world with wallets := world.wallets.modify number (·.configure script) }

/-- Tells the newest session's first wallet for a currency how to behave. -/
def configureWalletOf (world : ScriptedWorld) (uid : CurrencyId) (script : WalletScript) :
    ScriptedWorld :=
  match world.walletNumber? uid with
  | some number => world.configureWallet number script
  | none => world

def obey (command : ManagerCommand) (manager : ScriptedManager) : ScriptedManager :=
  match command with
  | .connect => { manager with state := .connected }
  | .disconnect => { manager with state := .disconnected none }
  | .setMode mode => { manager with mode }
  | .syncToDepth _ | .submit _ _ _ => manager

def openSession (world : ScriptedWorld) : Except EngineError EngineSession × ScriptedWorld :=
  match world.engine.sessionFault with
  | some reason => (.error (.failed reason), world)
  | none => (.ok ⟨world.sessions⟩, { world with sessions := world.sessions + 1 })

def refreshCatalog (world : ScriptedWorld) : Except CatalogError Catalog × ScriptedWorld :=
  match world.cache.refresh ScriptedSource.source world.disk world.source with
  | (answer, disk, source) => (answer, { world with disk, source })

def storeWithin : Store ScriptedWorld where
  get key world := (world.store.get key, world)
  set key value version world :=
    let (answer, store) := world.store.set key value version
    (answer, { world with store })

def walletOf? (world : ScriptedWorld) (wallet : EngineWallet) : Option ScriptedWallet :=
  world.wallets[wallet.number]?

def draft (wallet : EngineWallet) (target : Address) (amount : Amount) (world : ScriptedWorld) :
    Option Transfer × ScriptedWorld :=
  match world.walletOf? wallet with
  | none => (none, world)
  | some scripted =>
    let (transfer, scripted) := scripted.draft target amount
    (transfer, { world with wallets := world.wallets.set wallet.number scripted })

/-- The scripted world as the world around a registry. -/
def host : Host ScriptedWorld where
  now world := world.clock
  store := storeWithin
  refreshCatalog := refreshCatalog
  makeDirectory world :=
    let (disk, answer) := world.disk.makeDirectories world.directory
    (answer, { world with disk })
  removeDirectory world := { world with disk := (world.disk.removeTree world.directory).1 }
  createSession _ _ _ world := world.openSession
  start _ networks world :=
    world.emit ((world.engine.networks.filter fun network => networks.contains network.id).map
      fun network => .system (.networkAdded network))
  stop _ world := world
  supports _ network world mode := world.supports network mode
  defaultMode _ network world := world.defaultMode network
  createManager session network mode currencies world :=
    world.provideManager session network mode currencies
  modeOf manager world := (world.managers[manager.number]?.map (·.mode)).getD .apiOnly
  stateOf manager world := (world.managers[manager.number]?.map (·.state)).getD .created
  command manager command world :=
    { world with managers := world.managers.modify manager.number (obey command) }
  balanceOf wallet world :=
    ⟨((world.walletOf? wallet).map (·.balance)).getD 0, wallet.currency.uid⟩
  transfersOf wallet world := ((world.walletOf? wallet).map (·.transfers)).getD []
  receiveAddress wallet _ := ⟨"receive-" ++ wallet.currency.code⟩
  addressOf? _ address _ := if address = "bogus" then none else some ⟨address⟩
  draft wallet target amount _ world := world.draft wallet target amount
  takeEvents world := (world.events, { world with events := [] })

def nameOf (world : ScriptedWorld) (manager : EngineManager) : String :=
  (world.managers[manager.number]?.map (·.name)).getD ""

end ScriptedWorld

end MultiWallet
