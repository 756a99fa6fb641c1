import MultiWallet.Proofs.Contents

/-!
What a turn of the registry can do, said once: most turns leave the contents
alone, and each of the others changes them in one way, with effects that tell
which. What holds of every run is derived from the cases given here.
-/

namespace MultiWallet

open Outside

variable {W : Type}

/-! ### Contents -/

/-- Two registries are alike if they have the same session at the same stage, the
same catalog and the same contents. -/
structure Registry.Alike (before after : Registry) : Prop where
  config : after.config = before.config
  lifecycle : after.lifecycle = before.lifecycle
  session : after.session = before.session
  catalog : after.catalog = before.catalog
  currencies : after.currencies = before.currencies
  managers : after.managers = before.managers
  wallets : ∀ uid : CurrencyId,
    after.wallets[uid]?.map WalletController.bare = before.wallets[uid]?.map WalletController.bare

namespace Registry.Alike

theorem refl (registry : Registry) : Alike registry registry :=
  ⟨rfl, rfl, rfl, rfl, rfl, rfl, fun _ => rfl⟩

theorem exists_wallet {before after : Registry} (h : Alike before after) {uid : CurrencyId}
    {controller : WalletController} (found : after.wallets[uid]? = some controller) :
    ∃ old, before.wallets[uid]? = some old ∧ old.bare = controller.bare := by
  have same := h.wallets uid
  rw [found, Option.map_some] at same
  exact Option.map_eq_some_iff.1 same.symm

theorem mem_wallets {before after : Registry} (h : Alike before after) (uid : CurrencyId) :
    uid ∈ after.wallets ↔ uid ∈ before.wallets := by
  have same := congrArg Option.isSome (h.wallets uid)
  rw [Option.isSome_map, Option.isSome_map] at same
  rw [← Std.ExtTreeMap.isSome_getElem?_iff_mem, ← Std.ExtTreeMap.isSome_getElem?_iff_mem, same]

end Registry.Alike

/-- A turn that leaves the contents alone. -/
structure Turn.Quiet {α : Type} (registry : Registry) (outside : Outside W) (turn : Turn W α) :
    Prop where
  alike : Registry.Alike registry turn.registry
  quietly : Quietly outside turn.outside

namespace Registry

/-! ### Turns that leave the contents alone -/

theorem quiet_same {α : Type} (answer : Except RegistryError α) (registry : Registry)
    {outside outside' : Outside W} (h : Quietly outside outside') :
    Turn.Quiet registry outside ⟨answer, registry, outside'⟩ :=
  ⟨.refl registry, h⟩

theorem quiet_refuse {α : Type} (registry : Registry) (outside : Outside W)
    (error : RegistryError) :
    Turn.Quiet registry outside (registry.refuse outside error : Turn W α) :=
  quiet_same _ registry (.refl outside)

theorem alike_withWallet {registry : Registry} {uid : CurrencyId}
    {controller controller' : WalletController}
    (found : registry.wallets[uid]? = some controller)
    (same : controller'.bare = controller.bare) :
    Alike registry (registry.withWallet uid controller') where
  config := rfl
  lifecycle := rfl
  session := rfl
  catalog := rfl
  currencies := rfl
  managers := rfl
  wallets other := by
    rw [withWallet, Std.ExtTreeMap.getElem?_insert]
    split
    · rename_i heq
      obtain rfl := Std.LawfulEqOrd.eq_of_compare heq
      rw [found, Option.map_some, Option.map_some, same]
    · rfl

theorem quietly_commandAll (host : Host W) (outside : Outside W) (manager : EngineManager)
    (commands : List ManagerCommand) :
    Quietly outside (outside.commandAll host manager commands) :=
  (outside.adds_commandAll host manager commands).quietly (by simp [Effect.IsQuiet])

theorem quietly_commandManagers (host : Host W) (registry : Registry)
    (commands : EngineManager → List ManagerCommand) (outside : Outside W) :
    Quietly outside (registry.commandManagers host commands outside) := by
  rw [commandManagers]
  exact .foldl (fun outside manager => quietly_commandAll host outside manager _) _ outside

theorem quietly_publishTo (registry : Registry) (network : String) (change : WalletChange)
    (outside : Outside W) : Quietly outside (registry.publishTo network change outside) := by
  rw [publishTo, publishAll, List.foldl_map]
  exact .foldl (fun outside uid => (WalletController.onlyNews_publish outside uid change).quietly) _
    outside

theorem quietly_logAll (outside : Outside W) (lines : List LogLine) :
    Quietly outside (outside.logAll lines) :=
  (outside.adds_logAll lines).quietly (by simp [Effect.IsQuiet])

theorem quiet_setMode (host : Host W) (network : String) (mode : ManagerMode)
    (registry : Registry) (outside : Outside W) :
    Turn.Quiet registry outside (registry.setMode host network mode outside) := by
  rw [setMode]
  split
  · exact quiet_refuse registry outside _
  · split
    · exact quiet_refuse registry outside _
    · rename_i manager _
      split
      · have told := quietly_commandAll host outside manager (switchTo mode registry.isActive)
        dsimp only
        split
        · exact quiet_same _ registry told
        · rename_i settings _
          have written := ConnectionSettings.onlyWrites_choose host settings
            manager.network.currency mode
            (outside.commandAll host manager (switchTo mode registry.isActive))
          exact ⟨⟨rfl, rfl, rfl, rfl, rfl, rfl, fun _ => rfl⟩, told.trans written.quietly⟩
      · exact quiet_refuse registry outside _

theorem quiet_rescan (host : Host W) (network : String) (depth : SyncDepth) (registry : Registry)
    (outside : Outside W) :
    Turn.Quiet registry outside (registry.rescan host network depth outside) := by
  rw [rescan]
  split
  · split
    · exact quiet_refuse registry outside _
    · exact quiet_same _ registry
        ((quietly_commandAll host outside _ _).trans (quietly_publishTo registry network _ _))
  · exact quiet_refuse registry outside _

theorem quiet_updateConnections (host : Host W) (enabled : List CurrencyId)
    (registry : Registry) (outside : Outside W) :
    Turn.Quiet registry outside (registry.updateConnections host enabled outside) := by
  rw [updateConnections]
  split
  · exact quiet_same _ registry (quietly_commandManagers host registry _ outside)
  · exact quiet_refuse registry outside _

theorem quiet_draft (host : Host W) (uid : CurrencyId) (address : String) (amount : Amount)
    (fee : FeeBasis) (registry : Registry) (outside : Outside W) :
    Turn.Quiet registry outside (registry.draft host uid address amount fee outside) := by
  rw [draft]
  split
  · exact quiet_refuse registry outside _
  · rename_i controller _
    have aside : Quietly outside (controller.draft host address amount fee outside).2 := by
      rw [WalletController.draft]
      split
      · exact .refl outside
      · split <;> exact (Adds.world outside _).quietly (by simp)
    split
    rename_i heq
    rw [heq] at aside
    exact quiet_same _ registry aside

theorem quiet_submit (host : Host W) (uid : CurrencyId) (transfer : Transfer) (secret : Bytes)
    (registry : Registry) (outside : Outside W) :
    Turn.Quiet registry outside (registry.submit host uid transfer secret outside) := by
  rw [submit]
  split
  · exact quiet_refuse registry outside _
  · rename_i controller found
    split
    · exact quiet_refuse registry outside _
    · rename_i heq
      obtain ⟨same, news⟩ := WalletController.onlyNews_subscribe heq
      exact ⟨alike_withWallet found same,
        news.quietly.trans (WalletController.quietly_submit host _ transfer secret _)⟩

theorem quiet_unsubscribe (uid : CurrencyId) (transfer : TransferId) (registry : Registry)
    (outside : Outside W) :
    Turn.Quiet registry outside (registry.unsubscribe uid transfer outside) := by
  rw [unsubscribe]
  split
  · exact quiet_refuse registry outside _
  · rename_i controller found
    have kept := WalletController.onlyNews_unsubscribe controller transfer outside
    split
    rename_i heq
    rw [heq] at kept
    exact ⟨alike_withWallet found kept.1, kept.2.quietly⟩

theorem quiet_handleNotice (host : Host W) (notice : Notice) (registry : Registry)
    (outside : Outside W) :
    Turn.Quiet registry outside (registry.handleNotice host notice outside) := by
  rw [handleNotice]
  split
  · exact quiet_same _ registry (.refl outside)
  · rename_i settings _
    have read := (ConnectionSettings.onlyWrites_heed host notice settings outside).quietly
    split <;> rename_i heq <;> rw [heq] at read
    · exact ⟨⟨rfl, rfl, rfl, rfl, rfl, rfl, fun _ => rfl⟩, read⟩
    · dsimp only
      split
      · refine ⟨⟨rfl, rfl, rfl, rfl, rfl, rfl, fun _ => rfl⟩, read.trans ?_⟩
        exact .foldl (fun outside manager => quietly_commandAll host outside manager _) _ _
      · exact ⟨⟨rfl, rfl, rfl, rfl, rfl, rfl, fun _ => rfl⟩, read⟩

theorem quiet_withController (wallet : EngineWallet)
    (handle : WalletController → Outside W → WalletController × Outside W)
    (kept : ∀ controller outside, (handle controller outside).1.bare = controller.bare ∧
      OnlyNews outside (handle controller outside).2)
    (registry : Registry) (outside : Outside W) :
    Turn.Quiet registry outside (registry.withController wallet handle outside) := by
  rw [withController]
  dsimp only
  split
  · exact quiet_refuse registry outside _
  · rename_i controller found
    exact ⟨alike_withWallet found (kept controller outside).1,
      (kept controller outside).2.quietly⟩

theorem quiet_handleWallet (host : Host W) (wallet : EngineWallet) (event : WalletEvent)
    (registry : Registry) (outside : Outside W) :
    Turn.Quiet registry outside (registry.handleWallet host wallet event outside) := by
  have heeded := quiet_withController wallet (·.heedWalletEvent host event ·)
    (fun controller => controller.onlyNews_heedWalletEvent host event) registry outside
  cases event with
  | created | changed | deleted => exact quiet_same _ registry (.refl outside)
  | transferAdded | transferChanged | transferDeleted | transferSubmitted | balanceUpdated
  | feeBasisUpdated => exact heeded

theorem quiet_handleManager (host : Host W) (manager : EngineManager) {event : ManagerEvent}
    (notAdded : ∀ wallet, event ≠ .walletAdded wallet)
    (notDeleted : ∀ wallet, event ≠ .walletDeleted wallet) (registry : Registry)
    (outside : Outside W) :
    Turn.Quiet registry outside (registry.handleManager host manager event outside) := by
  have published (progress : SyncProgress) (lines : List LogLine) (change : WalletChange) :
      Turn.Quiet registry outside ⟨.ok (), { registry with progress },
        registry.publishTo manager.network.id change (outside.logAll lines)⟩ :=
    ⟨⟨rfl, rfl, rfl, rfl, rfl, rfl, fun _ => rfl⟩,
      (quietly_logAll outside lines).trans (quietly_publishTo registry _ change _)⟩
  cases event with
  | walletAdded wallet => exact absurd rfl (notAdded wallet)
  | walletDeleted wallet => exact absurd rfl (notDeleted wallet)
  | syncStarted | syncProgress | syncEnded => exact published _ _ _
  | blockUpdated => exact ⟨⟨rfl, rfl, rfl, rfl, rfl, rfl, fun _ => rfl⟩, .refl outside⟩
  | created | changed | deleted | walletChanged => exact quiet_same _ registry (.refl outside)

end Registry

/-! ### The cases of a turn -/

/-- What handling an input makes of a registry, with the effects of it. -/
inductive Outcome (host : Host W) (before : Registry) : Input → Registry → List Effect → Prop
  /-- The contents are left alone. -/
  | quiet {input : Input} {after : Registry} {effects : List Effect} :
      Registry.Alike before after → (∀ effect ∈ effects, effect.IsQuiet) →
      Outcome host before input after effects
  /-- A session was asked for, in vain or not. -/
  | asked {account : String} {after : Registry} {mainnet : Bool} {directory : String} :
      before.lifecycle = .uninitialized →
      (after = before ∨
        ∃ session, after = { before with session := some session, lifecycle := .idle }) →
      Outcome host before (.command (.create account)) after
        [.called (.createSession account mainnet directory)]
  /-- The catalog is a current one, and the engine was asked for what has no manager
  yet. -/
  | connected {world : W} {catalog : Catalog} {settings : ConnectionSettings}
      {effects others : List Effect} :
      before.lifecycle = .idle → (host.refreshCatalog world).1 = .ok catalog →
      (∀ effect ∈ effects, effect.IsQuiet) → (∀ effect ∈ others, effect.IsQuiet) →
      Outcome host before (.command .connect)
        { before with catalog, settings := some settings, lifecycle := .active }
        (effects ++ [.called (.start before.undiscovered)] ++ others)
  | disconnected {effects : List Effect} :
      before.lifecycle = .active → (∀ effect ∈ effects, effect.IsQuiet) →
      Outcome host before (.command .disconnect) { before with lifecycle := .idle }
        (effects ++ [.called .stop])
  /-- The session is over. -/
  | ended {effects : List Effect} :
      before.lifecycle ≠ .uninitialized → (∀ effect ∈ effects, effect.IsQuiet) →
      Outcome host before (.command .shutdown) (.fresh before.config)
        ((before.session.toList.map fun _ => .called .stop) ++ effects ++ [.published .reset])
  /-- A network was accepted, and its manager asked for. -/
  | network {network : Network} {made : List Currency} {mode : ManagerMode} {after : Registry}
      {writes : List Effect} :
      before.lifecycle ≠ .uninitialized →
      network.isMainnet = before.config.networkClass.isMainnet →
      before.enlist network [] network.currencies = .ok made →
      Registry.Alike (before.register made) after → (∀ effect ∈ writes, effect.IsWrite) →
      Outcome host before (.event (.system (.networkAdded network))) after
        ([.published (.currenciesUpdated after.currencyList)] ++ writes
          ++ [.called (.createManager network mode (made.map (·.uid)))])
  | manager {manager : EngineManager} {effects : List Effect} :
      before.lifecycle ≠ .uninitialized → manager.network.id ∉ before.managers →
      (∀ effect ∈ effects, effect.IsQuiet) →
      Outcome host before (.event (.system (.managerAdded manager)))
        { before with managers := before.managers.insert manager.network.id manager } effects
  | wallet {manager : EngineManager} {wallet : EngineWallet} {currency : Currency}
      {balance : Amount} {transfers : List Transfer} :
      before.lifecycle ≠ .uninitialized → wallet.currency.uid ∉ before.wallets →
      before.currencies[wallet.currency.uid]? = some currency →
      Outcome host before (.event (.manager manager (.walletAdded wallet)))
        (before.withWallet wallet.currency.uid (.fresh currency wallet manager))
        [.published (.walletAdded currency balance transfers)]
  | removal {manager : EngineManager} {wallet : EngineWallet} :
      before.lifecycle ≠ .uninitialized → wallet.currency.uid ∈ before.wallets →
      Outcome host before (.event (.manager manager (.walletDeleted wallet)))
        { before with wallets := before.wallets.erase wallet.currency.uid }
        [.published (.walletRemoved wallet.currency.uid)]

/-- A turn came out as one of the cases. -/
def Turn.Settles {α : Type} (host : Host W) (registry : Registry) (input : Input)
    (outside : Outside W) (turn : Turn W α) : Prop :=
  ∃ effects, Adds outside turn.outside effects ∧
    Outcome host registry input turn.registry effects

namespace Registry

variable {host : Host W} {registry : Registry} {outside : Outside W}

theorem settles_of_quiet {α : Type} {turn : Turn W α} (h : Turn.Quiet registry outside turn)
    (input : Input) : turn.Settles host registry input outside := by
  obtain ⟨alike, effects, added, only⟩ := h
  exact ⟨effects, added, .quiet alike only⟩

theorem settles_refuse {α : Type} (input : Input) (error : RegistryError) :
    (registry.refuse outside error : Turn W α).Settles host registry input outside :=
  settles_of_quiet (quiet_refuse registry outside error) input

theorem settles_create (host : Host W) (account : String) :
    (registry.create host account outside).Settles host registry (.command (.create account))
      outside := by
  rw [create]
  split
  · rename_i uninitialized
    split
    · exact settles_of_quiet (quiet_same _ registry ((Adds.world outside _).quietly (by simp))) _
    · rename_i world _
      have asked := adds_createSession host { outside with world } account
        registry.config.networkClass.isMainnet registry.config.coreDirectory
      have added := (Adds.world outside world).trans asked
      -- The call is made also when the engine then refuses.
      split <;> rename_i heq <;> rw [heq] at added
      · exact ⟨_, added, .asked uninitialized (.inl rfl)⟩
      · exact ⟨_, added, .asked uninitialized (.inr ⟨_, rfl⟩)⟩
  · exact settles_refuse _ _

theorem quietly_settingsOrLoad (host : Host W) (registry : Registry) (outside : Outside W) :
    Quietly outside (registry.settingsOrLoad host outside).2 := by
  rw [settingsOrLoad]
  split
  · exact .refl outside
  · exact (ConnectionSettings.onlyWrites_load host outside).quietly

theorem lifecycle_of_sessionAt? {stages : List Lifecycle} {session : EngineSession}
    (h : registry.sessionAt? stages = some session) :
    registry.lifecycle ∈ stages ∧ registry.session = some session := by
  rw [sessionAt?] at h
  split at h
  · exact ⟨‹_›, h⟩
  · cases h

theorem settles_connect (host : Host W) :
    (registry.connect host outside).Settles host registry (.command .connect) outside := by
  rw [connect]
  split
  · exact settles_refuse _ _
  · rename_i session found
    have idle : registry.lifecycle = .idle := by simpa using (lifecycle_of_sessionAt? found).1
    split
    · exact settles_of_quiet (quiet_same _ registry ((Adds.world outside _).quietly (by simp))) _
    · rename_i catalog world refreshed
      have asked := (Adds.world outside world).quietly (by simp)
      obtain ⟨effects, loaded, only⟩ :=
        asked.trans (quietly_settingsOrLoad host registry { outside with world })
      have started := loaded.trans (adds_start host _ session registry.undiscovered)
      obtain ⟨others, told, only'⟩ := quietly_commandManagers host registry (fun _ => [.connect])
        ((registry.settingsOrLoad host { outside with world }).2.start host session
          registry.undiscovered)
      exact ⟨_, started.trans told,
        .connected idle (congrArg Prod.fst refreshed) only only'⟩

theorem settles_disconnect (host : Host W) :
    (registry.disconnect host outside).Settles host registry (.command .disconnect) outside := by
  rw [disconnect]
  split
  · exact settles_refuse _ _
  · rename_i session found
    have active : registry.lifecycle = .active := by simpa using (lifecycle_of_sessionAt? found).1
    obtain ⟨effects, told, only⟩ :=
      quietly_commandManagers host registry (fun _ => [.disconnect]) outside
    exact ⟨_, told.trans (adds_stop host _ session), .disconnected active only⟩

theorem quietly_closeReceipts (registry : Registry) (outside : Outside W) :
    Quietly outside (registry.closeReceipts outside) := by
  rw [closeReceipts]
  exact .foldl (fun outside (entry : CurrencyId × WalletController) =>
    (WalletController.onlyNews_closePending entry.2.pending outside).quietly) _ outside

theorem settles_shutdown (heard : outside.isHeard = true) (host : Host W) :
    (registry.shutdown host outside).Settles host registry (.command .shutdown) outside := by
  rw [shutdown]
  split
  · exact settles_refuse _ _
  · rename_i initialized
    have stopped : Adds outside (registry.session.elim outside (outside.stop host))
        (registry.session.toList.map fun _ => .called .stop) := by
      cases registry.session with
      | none => exact .refl outside
      | some session => exact adds_stop host outside session
    obtain ⟨effects, closed, only⟩ := (quietly_closeReceipts registry _).trans
      ((Adds.world _ (host.removeDirectory _)).quietly (by simp))
    have added := stopped.trans closed
    exact ⟨_, added.trans (adds_publish (added.isHeard.trans heard) .reset),
      .ended initialized only⟩

theorem modeForNetwork_keeps (host : Host W) (session : EngineSession) (network : Network)
    (registry : Registry) (outside : Outside W) :
    Alike registry (registry.modeForNetwork host session network outside).2.1 ∧
      OnlyWrites outside (registry.modeForNetwork host session network outside).2.2 := by
  rw [modeForNetwork]
  split
  · exact ⟨.refl registry, .refl outside⟩
  · rename_i settings _
    have written := ConnectionSettings.onlyWrites_modeFor host settings network.currency
      (host.supports session network outside.world) outside
    dsimp only
    split <;> exact ⟨⟨rfl, rfl, rfl, rfl, rfl, rfl, fun _ => rfl⟩, written⟩

/-- A network whose currencies can be enlisted is accepted, whatever the engine
answers to the request for its manager. -/
theorem addNetwork_of_enlist (heard : outside.isHeard = true) (host : Host W) {network : Network}
    {session : EngineSession} {made : List Currency}
    (family : network.isMainnet = registry.config.networkClass.isMainnet)
    (opened : registry.session = some session)
    (enlisted : registry.enlist network [] network.currencies = .ok made) :
    ∃ answer after outside' mode writes,
      registry.addNetwork host network outside =
        ⟨Except.mapError .engine answer, after, outside'⟩ ∧
      Alike (registry.register made) after ∧ (∀ effect ∈ writes, effect.IsWrite) ∧
      Adds outside outside' ([.published (.currenciesUpdated after.currencyList)] ++ writes
        ++ [.called (.createManager network mode (made.map (·.uid)))]) := by
  have published := adds_publish heard (.currenciesUpdated (registry.register made).currencyList)
  have kept := modeForNetwork_keeps host session network (registry.register made)
    (outside.publish (.currenciesUpdated (registry.register made).currencyList))
  rcases chosen : (registry.register made).modeForNetwork host session network
    (outside.publish (.currenciesUpdated (registry.register made).currencyList))
    with ⟨mode, after, chosenOutside⟩
  rw [chosen] at kept
  obtain ⟨alike, writes, added, only⟩ := kept
  dsimp only at alike added
  have asked := (published.trans added).trans
    (adds_createManager host chosenOutside session network mode (made.map (·.uid)))
  -- What is published before the mode is chosen is also the list afterwards.
  have list : after.currencyList = (registry.register made).currencyList :=
    congrArg (·.toList.map (·.2)) alike.currencies
  rw [← list] at asked
  refine ⟨(createManager host chosenOutside session network mode (made.map (·.uid))).1, after, _,
    mode, writes, ?_, alike, only, asked⟩
  rw [addNetwork, if_neg (Classical.not_not.2 family), opened]
  simp only [enlisted, chosen]

theorem settles_addNetwork (heard : outside.isHeard = true) (host : Host W) (network : Network)
    (initialized : registry.lifecycle ≠ .uninitialized) :
    (registry.addNetwork host network outside).Settles host registry
      (.event (.system (.networkAdded network))) outside := by
  by_cases family : network.isMainnet = registry.config.networkClass.isMainnet
  · cases opened : registry.session with
    | none =>
        rw [addNetwork, if_neg (Classical.not_not.2 family), opened]
        exact settles_refuse _ _
    | some session =>
        cases enlisted : registry.enlist network [] network.currencies with
        | error broken =>
            rw [addNetwork, if_neg (Classical.not_not.2 family), opened]
            simp only [enlisted]
            exact settles_refuse _ _
        | ok made =>
            obtain ⟨_, _, _, _, _, turn, alike, only, added⟩ :=
              addNetwork_of_enlist heard host family opened enlisted
            rw [turn]
            exact ⟨_, added, .network initialized family enlisted alike only⟩
  · rw [addNetwork, if_pos family]
    exact settles_of_quiet (quiet_same _ registry (.refl outside)) _

theorem settles_addManager (host : Host W) (manager : EngineManager)
    (initialized : registry.lifecycle ≠ .uninitialized) :
    (registry.addManager host manager outside).Settles host registry
      (.event (.system (.managerAdded manager))) outside := by
  rw [addManager]
  split
  · exact settles_refuse _ _
  · rename_i absent
    have told : Quietly outside
        (if registry.isActive then outside.command host manager .connect else outside) := by
      split
      · exact (adds_command host outside manager .connect).quietly (by simp [Effect.IsQuiet])
      · exact .refl outside
    obtain ⟨effects, added, only⟩ := told
    exact ⟨effects, added, .manager initialized (by simpa using absent) only⟩

theorem settles_addWallet (heard : outside.isHeard = true) (host : Host W)
    (manager : EngineManager) (wallet : EngineWallet)
    (initialized : registry.lifecycle ≠ .uninitialized) :
    (registry.addWallet host manager wallet outside).Settles host registry
      (.event (.manager manager (.walletAdded wallet))) outside := by
  rw [addWallet]
  dsimp only
  split
  · exact settles_refuse _ _
  · rename_i absent
    split
    · exact settles_refuse _ _
    · rename_i currency found
      exact ⟨_, adds_publish heard _, .wallet initialized (by simpa using absent) found⟩

theorem settles_removeWallet (heard : outside.isHeard = true) (manager : EngineManager)
    (wallet : EngineWallet) (initialized : registry.lifecycle ≠ .uninitialized) :
    (registry.removeWallet wallet outside).Settles host registry
      (.event (.manager manager (.walletDeleted wallet))) outside := by
  rw [removeWallet]
  dsimp only
  split
  · exact settles_refuse _ _
  · rename_i controller found
    have closed : Adds outside (WalletController.closePending controller.pending outside) [] := by
      cases controller.pending with
      | none => exact .refl outside
      | some pending => exact outside.adds_modifyReceipt pending.receipt .close
    have published := adds_publish (closed.isHeard.trans heard)
      (.walletRemoved wallet.currency.uid)
    exact ⟨_, closed.trans published,
      .removal initialized (Table.mem_iff_exists.2 ⟨controller, found⟩)⟩

theorem settles_execute (heard : outside.isHeard = true) (host : Host W) (command : Command) :
    (registry.execute host command outside).Settles host registry (.command command) outside := by
  cases command with
  | create account => exact settles_create host account
  | connect => exact settles_connect host
  | disconnect => exact settles_disconnect host
  | shutdown => exact settles_shutdown heard host
  | setMode network mode =>
      exact settles_of_quiet (quiet_setMode host network mode registry outside) _
  | rescan network depth =>
      exact settles_of_quiet (quiet_rescan host network depth registry outside) _
  | updateConnections enabled =>
      exact settles_of_quiet (quiet_updateConnections host enabled registry outside) _
  | draft uid address amount fee =>
      exact settles_of_quiet (quiet_draft host uid address amount fee registry outside) _
  | submit uid transfer secret =>
      exact settles_of_quiet (quiet_submit host uid transfer secret registry outside) _
  | unsubscribe uid transfer =>
      exact settles_of_quiet (quiet_unsubscribe uid transfer registry outside) _
  | snapshot => exact settles_of_quiet (quiet_same _ registry (.refl outside)) _

theorem settles_dispatch (heard : outside.isHeard = true) (host : Host W) (event : EngineEvent)
    (initialized : registry.lifecycle ≠ .uninitialized) :
    (registry.dispatch host event outside).Settles host registry (.event event) outside := by
  cases event with
  | system event =>
      cases event with
      | created => exact settles_of_quiet (quiet_same _ registry (.refl outside)) _
      | networkAdded network => exact settles_addNetwork heard host network initialized
      | managerAdded manager => exact settles_addManager host manager initialized
  | manager manager event =>
      -- Of what a manager reports, only these two change the contents.
      by_cases isAdded : ∃ wallet, event = .walletAdded wallet
      · obtain ⟨wallet, rfl⟩ := isAdded
        exact settles_addWallet heard host manager wallet initialized
      by_cases isDeleted : ∃ wallet, event = .walletDeleted wallet
      · obtain ⟨wallet, rfl⟩ := isDeleted
        exact settles_removeWallet heard manager wallet initialized
      exact settles_of_quiet (quiet_handleManager host manager (not_exists.1 isAdded)
        (not_exists.1 isDeleted) registry outside) _
  | wallet _ wallet event =>
      exact settles_of_quiet (quiet_handleWallet host wallet event registry outside) _
  | transfer _ wallet transfer event =>
      exact settles_of_quiet (quiet_withController wallet _ (fun controller =>
        controller.onlyNews_heedTransferEvent host transfer.id event) registry outside) _

/-- Every turn comes out as one of the cases. -/
theorem handle_settles (heard : outside.isHeard = true) (host : Host W) (input : Input) :
    (registry.handle host input outside).Settles host registry input outside := by
  cases input with
  | command command => exact settles_execute heard host command
  | notice notice => exact settles_of_quiet (quiet_handleNotice host notice registry outside) _
  | event event =>
      change ((registry.handleEvent host event outside).map _).Settles host registry _ outside
      rw [handleEvent]
      split
      · exact settles_of_quiet (quiet_same _ registry (.refl outside)) _
      · rename_i initialized
        exact settles_dispatch heard host event initialized

end Registry

end MultiWallet
