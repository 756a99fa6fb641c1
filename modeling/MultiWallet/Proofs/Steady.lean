import MultiWallet.Registry.Event

/-!
What turns do to the surroundings, taken apart into single steps. A relation that
no step breaks is not broken by a turn, as long as managers are told only what it
allows for. It is enough to know the steps, therefore, to see that a turn leaves
something alone.
-/

namespace MultiWallet

variable {W : Type}

/-- What is done to the world in one step. Of what managers can be told, only some
things are considered. -/
inductive Host.Does (host : Host W) (allowed : ManagerCommand → Prop) : W → W → Prop
  | refreshCatalog (world : W) : Does host allowed world (host.refreshCatalog world).2
  | makeDirectory (world : W) : Does host allowed world (host.makeDirectory world).2
  | removeDirectory (world : W) : Does host allowed world (host.removeDirectory world)
  | createSession (account : String) (mainnet : Bool) (directory : String) (world : W) :
      Does host allowed world (host.createSession account mainnet directory world).2
  | start (session : EngineSession) (networks : List String) (world : W) :
      Does host allowed world (host.start session networks world)
  | stop (session : EngineSession) (world : W) : Does host allowed world (host.stop session world)
  | createManager (session : EngineSession) (network : Network) (mode : ManagerMode)
      (currencies : List CurrencyId) (world : W) :
      Does host allowed world (host.createManager session network mode currencies world).2
  | command {told : ManagerCommand} : allowed told → ∀ (manager : EngineManager) (world : W),
      Does host allowed world (host.command manager told world)
  | get (key : String) (world : W) : Does host allowed world (host.store.get key world).2
  | set (key : String) (value : Bytes) (version : Nat) (world : W) :
      Does host allowed world (host.store.set key value version world).2
  | draft (wallet : EngineWallet) (target : Address) (amount : Amount) (fee : FeeBasis)
      (world : W) : Does host allowed world (host.draft wallet target amount fee world).2

/-- A relation that holds across every step. -/
structure Outside.Steady (host : Host W) (allowed : ManagerCommand → Prop)
    (R : Outside W → Outside W → Prop) : Prop where
  refl : ∀ outside, R outside outside
  trans : ∀ {first second third}, R first second → R second third → R first third
  note : ∀ (outside : Outside W) {effect : Effect}, effect.command? = none →
    R outside (outside.note effect)
  told : ∀ (outside : Outside W) (manager : EngineManager) {told : ManagerCommand}, allowed told →
    R outside (outside.note (.commanded manager told))
  world : ∀ (outside : Outside W) {world : W}, host.Does allowed outside.world world →
    R outside { outside with world }

namespace Outside.Steady

variable {host : Host W} {allowed : ManagerCommand → Prop} {R : Outside W → Outside W → Prop}

/-! ### Compound steps -/

section Steps

variable (steady : Steady host allowed R)

include steady

theorem foldl {α : Type} {step : Outside W → α → Outside W} (items : List α)
    (single : ∀ outside, ∀ a ∈ items, R outside (step outside a)) (outside : Outside W) :
    R outside (items.foldl step outside) := by
  induction items generalizing outside with
  | nil => exact steady.refl outside
  | cons a rest ih =>
      obtain ⟨first, others⟩ := List.forall_mem_cons.1 (fun b mem outside => single outside b mem)
      exact steady.trans (first outside) (ih (fun outside b mem => others b mem outside) _)

theorem log (outside : Outside W) (level : LogLevel) (message : String) :
    R outside (outside.log level message) :=
  steady.note outside rfl

theorem logAll (outside : Outside W) (lines : List LogLine) : R outside (outside.logAll lines) :=
  steady.foldl lines (fun outside _ _ => steady.note outside rfl) outside

theorem publish (outside : Outside W) (action : StateAction) :
    R outside (outside.publish action) := by
  rw [Outside.publish]
  split
  · exact steady.note outside rfl
  · exact steady.log outside _ _

theorem publishAll (outside : Outside W) (actions : List StateAction) :
    R outside (outside.publishAll actions) :=
  steady.foldl actions (fun outside action _ => steady.publish outside action) outside

theorem command (outside : Outside W) (manager : EngineManager) {told : ManagerCommand}
    (may : allowed told) : R outside (outside.command host manager told) :=
  steady.trans (steady.told outside manager may) (steady.world _ (.command may manager _))

theorem commandAll (outside : Outside W) (manager : EngineManager) (commands : List ManagerCommand)
    (may : ∀ told ∈ commands, allowed told) :
    R outside (outside.commandAll host manager commands) :=
  steady.foldl commands (fun outside told mem => steady.command outside manager (may told mem))
    outside

theorem createSession (outside : Outside W) (account : String) (mainnet : Bool)
    (directory : String) : R outside (outside.createSession host account mainnet directory).2 :=
  steady.trans (steady.note outside rfl)
    (steady.world _ (.createSession account mainnet directory _))

theorem start (outside : Outside W) (session : EngineSession) (networks : List String) :
    R outside (outside.start host session networks) :=
  steady.trans (steady.note outside rfl)
    (steady.world _ (.start session networks _))

theorem stop (outside : Outside W) (session : EngineSession) :
    R outside (outside.stop host session) :=
  steady.trans (steady.note outside rfl) (steady.world _ (.stop session _))

theorem createManager (outside : Outside W) (session : EngineSession) (network : Network)
    (mode : ManagerMode) (currencies : List CurrencyId) :
    R outside (outside.createManager host session network mode currencies).2 :=
  steady.trans (steady.note outside rfl)
    (steady.world _ (.createManager session network mode currencies _))

/-! ### The store -/

theorem get (outside : Outside W) (key : String) : R outside ((store host).get key outside).2 :=
  steady.world outside (.get key _)

theorem set (outside : Outside W) (key : String) (value : Bytes) (version : Nat) :
    R outside ((store host).set key value version outside).2 :=
  steady.trans (steady.note outside rfl)
    (steady.world _ (.set key value version _))

theorem load {α : Type} [Persisted α] (outside : Outside W) :
    R outside ((store host).load (α := α) outside).2 := by
  have read := steady.get outside (Persisted.key α)
  rw [Store.load]
  split <;> rename_i heq <;> rw [heq] at read <;> exact read

theorem save {α : Type} [Persisted α] (outside : Outside W) (value : α) (version : Nat) :
    R outside ((store host).save value version outside).2 := by
  have written := steady.set outside (Persisted.key α) (Persisted.encode value) version
  rw [Store.save]
  split <;> rename_i heq <;> rw [heq] at written <;> exact written

theorem loadSettings (outside : Outside W) :
    R outside (ConnectionSettings.load (store host) outside).2 := by
  have read := steady.load (α := WalletInfo) outside
  rw [ConnectionSettings.load]
  split <;> rename_i heq <;> rw [heq] at read <;> exact read

theorem choose (outside : Outside W) (settings : ConnectionSettings) (uid : CurrencyId)
    (mode : ManagerMode) : R outside (settings.choose (store host) uid mode outside).2.2 := by
  have written := steady.save outside (settings.note uid mode).info.value
    (settings.note uid mode).version
  rw [ConnectionSettings.choose, ConnectionSettings.save]
  split <;> rename_i heq <;> rw [heq] at written <;> exact written

theorem modeFor (outside : Outside W) (settings : ConnectionSettings) (uid : CurrencyId)
    (supported : ManagerMode → Bool) :
    R outside (settings.modeFor (store host) uid supported outside).2.2 := by
  rw [ConnectionSettings.modeFor]
  split
  · exact steady.refl outside
  · exact steady.choose outside _ uid _

theorem heed (outside : Outside W) (settings : ConnectionSettings) (notice : Notice) :
    R outside (settings.heed (store host) notice outside).2.2 := by
  have read := steady.load (α := WalletInfo) outside
  rw [ConnectionSettings.heed]
  split
  · split <;> rename_i heq <;> rw [heq] at read
    · exact read
    · exact read
    · split <;> exact read
  · exact steady.refl outside

end Steps

end Outside.Steady

/-- A turn that leaves the wallets as they are, and the surroundings as far as a
relation looks at them. -/
structure Turn.Calm {α : Type} (R : Outside W → Outside W → Prop) (registry : Registry)
    (outside : Outside W) (turn : Turn W α) : Prop where
  wallets : turn.registry.wallets = registry.wallets
  kept : R outside turn.outside

theorem Turn.Calm.map {α β : Type} {R : Outside W → Outside W → Prop} {registry : Registry}
    {outside : Outside W} {turn : Turn W α} (h : turn.Calm R registry outside) (f : α → β) :
    (turn.map f).Calm R registry outside :=
  ⟨h.wallets, h.kept⟩

namespace Registry

open Outside

variable {host : Host W} {allowed : ManagerCommand → Prop} {R : Outside W → Outside W → Prop}

/-! ### Turns -/

section Turns

variable (steady : Steady host allowed R) (registry : Registry) (outside : Outside W)

include steady

theorem calm_refuse {α : Type} (error : RegistryError) :
    Turn.Calm R registry outside (registry.refuse outside error : Turn W α) :=
  ⟨rfl, steady.refl outside⟩

theorem steady_commandManagers (commands : EngineManager → List ManagerCommand)
    (may : ∀ manager, ∀ told ∈ commands manager, allowed told) :
    R outside (registry.commandManagers host commands outside) :=
  steady.foldl _ (fun outside manager _ =>
    steady.commandAll outside manager (commands manager) (may manager)) outside

theorem calm_create (account : String) :
    Turn.Calm R registry outside (registry.create host account outside) := by
  rw [create]
  split
  · have made := steady.world outside (.makeDirectory outside.world)
    split <;> rename_i heq <;> rw [heq] at made
    · exact ⟨rfl, made⟩
    · rename_i world
      have asked := steady.trans made (steady.createSession { outside with world } account
        registry.config.networkClass.isMainnet registry.config.coreDirectory)
      split <;> rename_i heq <;> rw [heq] at asked <;> exact ⟨rfl, asked⟩
  · exact calm_refuse steady registry outside _

theorem steady_settingsOrLoad : R outside (registry.settingsOrLoad host outside).2 := by
  rw [settingsOrLoad]
  split
  · exact steady.refl outside
  · exact steady.loadSettings outside

theorem calm_connect (may : allowed .connect) :
    Turn.Calm R registry outside (registry.connect host outside) := by
  rw [connect]
  split
  · exact calm_refuse steady registry outside _
  · rename_i session _
    have refreshed := steady.world outside (.refreshCatalog outside.world)
    split <;> rename_i heq <;> rw [heq] at refreshed
    · exact ⟨rfl, refreshed⟩
    · rename_i world
      have loaded := steady.trans refreshed
        (steady_settingsOrLoad steady registry { outside with world })
      have started := steady.trans loaded (steady.start _ session registry.undiscovered)
      exact ⟨rfl, steady.trans started
        (steady_commandManagers steady registry _ _ (by simp [may]))⟩

theorem calm_disconnect (may : allowed .disconnect) :
    Turn.Calm R registry outside (registry.disconnect host outside) := by
  rw [disconnect]
  split
  · exact calm_refuse steady registry outside _
  · rename_i session _
    have told := steady_commandManagers steady registry outside (fun _ => [.disconnect])
      (by simp [may])
    exact ⟨rfl, steady.trans told (steady.stop _ session)⟩

theorem calm_setMode (may : ∀ told, allowed told) (network : String) (mode : ManagerMode) :
    Turn.Calm R registry outside (registry.setMode host network mode outside) := by
  rw [setMode]
  split
  · exact calm_refuse steady registry outside _
  · split
    · exact calm_refuse steady registry outside _
    · rename_i manager _
      split
      · have told := steady.commandAll outside manager (switchTo mode registry.isActive)
          fun told _ => may told
        dsimp only
        split
        · exact ⟨rfl, told⟩
        · rename_i settings _
          exact ⟨rfl, steady.trans told (steady.choose _ settings manager.network.currency mode)⟩
      · exact calm_refuse steady registry outside _

theorem steady_publishTo (network : String) (change : WalletChange) :
    R outside (registry.publishTo network change outside) :=
  steady.publishAll outside _

theorem calm_rescan (may : ∀ told, allowed told) (network : String) (depth : SyncDepth) :
    Turn.Calm R registry outside (registry.rescan host network depth outside) := by
  rw [rescan]
  split
  · split
    · exact calm_refuse steady registry outside _
    · rename_i manager _
      exact ⟨rfl, steady.trans (steady.commandAll outside manager _ fun told _ => may told)
        (steady_publishTo steady registry _ network _)⟩
  · exact calm_refuse steady registry outside _

theorem calm_updateConnections (may : ∀ told, allowed told) (enabled : List CurrencyId) :
    Turn.Calm R registry outside (registry.updateConnections host enabled outside) := by
  rw [updateConnections]
  split
  · exact ⟨rfl, steady_commandManagers steady registry outside _ fun _ told _ => may told⟩
  · exact calm_refuse steady registry outside _

theorem calm_draft (uid : CurrencyId) (address : String) (amount : Amount) (fee : FeeBasis) :
    Turn.Calm R registry outside (registry.draft host uid address amount fee outside) := by
  rw [draft]
  split
  · exact calm_refuse steady registry outside _
  · rename_i controller _
    have drafted : R outside (controller.draft host address amount fee outside).2 := by
      rw [WalletController.draft]
      split
      · exact steady.refl outside
      · rename_i target _
        have asked := steady.world outside (.draft controller.wallet target amount fee _)
        split <;> rename_i heq <;> rw [heq] at asked <;> exact asked
    exact ⟨rfl, drafted⟩

theorem calm_modeForNetwork (session : EngineSession) (network : Network) :
    (registry.modeForNetwork host session network outside).2.1.wallets = registry.wallets ∧
      R outside (registry.modeForNetwork host session network outside).2.2 := by
  rw [modeForNetwork]
  split
  · exact ⟨rfl, steady.refl outside⟩
  · rename_i settings _
    have chosen := steady.modeFor outside settings network.currency
      (host.supports session network outside.world)
    dsimp only
    split <;> exact ⟨rfl, chosen⟩

theorem calm_addNetwork (network : Network) :
    Turn.Calm R registry outside (registry.addNetwork host network outside) := by
  rw [addNetwork]
  split
  · exact ⟨rfl, steady.refl outside⟩
  · split
    · exact calm_refuse steady registry outside _
    · rename_i session _
      split
      · exact calm_refuse steady registry outside _
      · rename_i made _
        have published := steady.publish outside
          (.currenciesUpdated (registry.register made).currencyList)
        obtain ⟨wallets, chosen⟩ := calm_modeForNetwork steady (registry.register made)
          (outside.publish (.currenciesUpdated (registry.register made).currencyList)) session
          network
        exact ⟨wallets, steady.trans (steady.trans published chosen)
          (steady.createManager _ session network _ _)⟩

theorem calm_addManager (may : allowed .connect) (manager : EngineManager) :
    Turn.Calm R registry outside (registry.addManager host manager outside) := by
  rw [addManager]
  split
  · exact calm_refuse steady registry outside _
  · refine ⟨rfl, ?_⟩
    dsimp only
    split
    · exact steady.command outside manager may
    · exact steady.refl outside

theorem calm_handleNotice (may : ∀ told, allowed told) (notice : Notice) :
    Turn.Calm R registry outside (registry.handleNotice host notice outside) := by
  rw [handleNotice]
  split
  · exact ⟨rfl, steady.refl outside⟩
  · rename_i settings _
    have read := steady.heed outside settings notice
    split <;> rename_i heq <;> rw [heq] at read
    · exact ⟨rfl, read⟩
    · dsimp only
      split
      · exact ⟨rfl, steady.trans read <| steady.foldl _ (fun outside manager _ =>
          steady.commandAll outside manager _ fun told _ => may told) _⟩
      · exact ⟨rfl, read⟩

theorem calm_handleManager (manager : EngineManager) {event : ManagerEvent}
    (notAdded : ∀ wallet, event ≠ .walletAdded wallet)
    (notDeleted : ∀ wallet, event ≠ .walletDeleted wallet) :
    Turn.Calm R registry outside (registry.handleManager host manager event outside) := by
  have published (progress : SyncProgress) (lines : List LogLine) (change : WalletChange) :
      Turn.Calm R registry outside ⟨.ok (), { registry with progress },
        registry.publishTo manager.network.id change (outside.logAll lines)⟩ :=
    ⟨rfl, steady.trans (steady.logAll outside lines) (steady_publishTo steady registry _ _ _)⟩
  cases event with
  | walletAdded wallet => exact absurd rfl (notAdded wallet)
  | walletDeleted wallet => exact absurd rfl (notDeleted wallet)
  | syncStarted | syncProgress | syncEnded => exact published _ _ _
  | blockUpdated | created | changed | deleted | walletChanged => exact ⟨rfl, steady.refl outside⟩

end Turns

end Registry

end MultiWallet
