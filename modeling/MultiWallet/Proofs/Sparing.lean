import MultiWallet.Proofs.Publishing
import MultiWallet.Proofs.Session

/-!
Turns that leave the progress of synchronization alone, in the tracker's record as in what is
shown of the wallets. All but a few do: the tracker is told of syncs and of blocks and starts
anew with every session; and of all that is published, only the reports on a sync change how
far a wallet is shown to be, while a wallet that is added begins with nothing.
-/

namespace MultiWallet

open Outside

variable {W : Type}

/-! ### Plain actions -/

/-- Whether a change leaves alone how far a wallet is. -/
def WalletChange.IsPlain : WalletChange → Prop
  | syncState state => state ≠ .success
  | syncProgress _ _ => False
  | rescanning _ | balance _ | transfers _ => True

theorem WalletChange.IsPlain.progress_apply {change : WalletChange} (plain : change.IsPlain)
    (wallet : WalletState) : (wallet.apply change).progress = wallet.progress := by
  cases change with
  | syncState state => exact if_neg plain
  | syncProgress => exact plain.elim
  | rescanning | balance | transfers => rfl

/-- Whether an action adds no wallet, and leaves alone how far the others are. -/
def StateAction.IsPlain : StateAction → Prop
  | walletAdded _ _ _ => False
  | walletChanged _ change => change.IsPlain
  | currenciesUpdated _ | walletRemoved _ | reset => True

/-- What is shown after plain actions was shown before, and as far as it is now. -/
theorem AppState.shown_before {actions : List StateAction}
    (plain : ∀ action ∈ actions, action.IsPlain) {app : AppState} {uid : CurrencyId}
    {wallet : WalletState} (shown : (app.applyAll actions).wallets[uid]? = some wallet) :
    ∃ old, app.wallets[uid]? = some old ∧ old.currency = wallet.currency ∧
      old.progress = wallet.progress := by
  induction actions generalizing app with
  | nil => exact ⟨wallet, shown, rfl, rfl⟩
  | cons action rest ih =>
      obtain ⟨isPlain, plain⟩ := List.forall_mem_cons.1 plain
      obtain ⟨next, there, currency, progress⟩ := ih plain shown
      cases action with
      | walletAdded => exact isPlain.elim
      | currenciesUpdated => exact ⟨next, there, currency, progress⟩
      | reset => simp [apply, empty] at there
      | walletRemoved other =>
          rw [getElem?_apply rfl] at there
          split at there
          · cases there
          · exact ⟨next, there, currency, progress⟩
      | walletChanged other change =>
          rw [getElem?_apply rfl] at there
          split at there
          · obtain ⟨old, was, rfl⟩ := Option.map_eq_some_iff.1 there
            exact ⟨old, was, (old.apply_currency change).symm.trans currency,
              (isPlain.progress_apply old).symm.trans progress⟩
          · exact ⟨next, there, currency, progress⟩

/-! ### Plain effects -/

/-- Whether an effect publishes nothing but a plain action. -/
def Effect.IsPlain (effect : Effect) : Prop :=
  ∀ action, effect.action? = some action → action.IsPlain

namespace Outside

/-- All that was done in between was plain. -/
abbrev Plainly (before after : Outside W) : Prop := OnlyAdds Effect.IsPlain before after

theorem Plainly.exists_actions {before after : Outside W} (h : Plainly before after) :
    ∃ actions, after.actions = before.actions ++ actions ∧
      ∀ action ∈ actions, action.IsPlain := by
  obtain ⟨effects, added, plain⟩ := h
  refine ⟨_, added.actions, fun action mem => ?_⟩
  obtain ⟨effect, mem, isAction⟩ := List.mem_filterMap.1 mem
  exact plain effect mem action isAction

theorem Mutely.plainly {before after : Outside W} (h : Mutely before after) :
    Plainly before after :=
  h.mono fun effect mute action isAction => by
    rw [mute] at isAction
    cases isAction

theorem Adds.plainly {before after : Outside W} {effects : List Effect}
    (h : Adds before after effects) (mute : ∀ effect ∈ effects, effect.action? = none) :
    Plainly before after :=
  Mutely.plainly (h.only mute)

theorem OnlyWrites.plainly {before after : Outside W} (h : OnlyWrites before after) :
    Plainly before after :=
  Mutely.plainly (h.mono fun _ written => written.action?_eq_none)

theorem plainly_world (outside : Outside W) (world : W) : Plainly outside { outside with world } :=
  (Adds.world outside world).plainly (by simp)

theorem plainly_log (outside : Outside W) (level : LogLevel) (message : String) :
    Plainly outside (outside.log level message) :=
  (outside.adds_log level message).plainly (by simp [Effect.action?])

theorem plainly_modifyReceipt (outside : Outside W) (id : ReceiptId)
    (change : Receipt → Receipt) : Plainly outside (outside.modifyReceipt id change) :=
  (outside.adds_modifyReceipt id change).plainly (by simp)

/-- A plain action, heard or not. -/
theorem plainly_publish (outside : Outside W) (action : StateAction) (plain : action.IsPlain) :
    Plainly outside (outside.publish action) := by
  rw [publish]
  split
  · refine (outside.adds_note _).only ?_
    simp [Effect.IsPlain, Effect.action?, plain]
  · exact plainly_log outside _ _

theorem plainly_command (host : Host W) (outside : Outside W) (manager : EngineManager)
    (command : ManagerCommand) : Plainly outside (outside.command host manager command) :=
  (outside.adds_command host manager command).plainly (by simp [Effect.action?])

theorem plainly_commandAll (host : Host W) (outside : Outside W) (manager : EngineManager)
    (commands : List ManagerCommand) : Plainly outside (outside.commandAll host manager commands) :=
  (outside.adds_commandAll host manager commands).plainly (by simp [Effect.action?])

end Outside

/-! ### Controllers -/

namespace WalletController

theorem plainly_closePending (pending : Option PendingSend) (outside : Outside W) :
    Plainly outside (closePending pending outside) := by
  cases pending with
  | none => exact .refl outside
  | some pending => exact plainly_modifyReceipt outside pending.receipt .close

theorem plainly_subscribe {controller : WalletController} {transfer : TransferId}
    {outside : Outside W} {receipt : ReceiptId} {controller' : WalletController}
    {outside' : Outside W}
    (h : controller.subscribe transfer outside = .ok (receipt, controller', outside')) :
    Plainly outside outside' := by
  rw [subscribe] at h
  split at h
  · cases h
  · cases h
    refine .trans (.trans ?_ (plainly_closePending _ _)) ((Adds.aside _ _ _).plainly (by simp))
    split
    · exact .refl outside
    · exact plainly_log outside _ _

theorem plainly_unsubscribe (controller : WalletController) (transfer : TransferId)
    (outside : Outside W) : Plainly outside (controller.unsubscribe transfer outside).2.2 := by
  rw [unsubscribe]
  split
  · exact plainly_closePending _ outside
  · exact .refl outside

theorem plainly_publishTransfers (host : Host W) (controller : WalletController)
    (outside : Outside W) : Plainly outside (controller.publishTransfers host outside) :=
  plainly_publish outside _ trivial

theorem plainly_heedWalletEvent (host : Host W) (controller : WalletController)
    (event : WalletEvent) (outside : Outside W) :
    Plainly outside (controller.heedWalletEvent host event outside).2 := by
  cases event with
  | balanceUpdated balance => exact (plainly_log outside _ _).trans (plainly_publish _ _ trivial)
  | transferSubmitted transfer success =>
      exact (silent_resolve controller transfer.id success outside).mutely.plainly.trans
        (plainly_publishTransfers host _ _)
  | transferAdded | transferChanged | transferDeleted =>
      exact plainly_publishTransfers host controller outside
  | created | changed | deleted | feeBasisUpdated => exact .refl outside

theorem plainly_heedTransferEvent (host : Host W) (controller : WalletController)
    (transfer : TransferId) (event : TransferEvent) (outside : Outside W) :
    Plainly outside (controller.heedTransferEvent host transfer event outside).2 := by
  cases event with
  | changed old new =>
      exact (silent_heedTransferState controller transfer old new outside).mutely.plainly.trans
        (plainly_publishTransfers host _ _)
  | created | deleted => exact plainly_publishTransfers host controller outside

end WalletController

/-! ### Turns -/

/-- A turn that leaves the tracker's record alone and does nothing but what is plain. -/
structure Turn.Plain {α : Type} (registry : Registry) (outside : Outside W) (turn : Turn W α) :
    Prop where
  progress : turn.registry.progress = registry.progress
  plainly : Plainly outside turn.outside

theorem Turn.Plain.map {α β : Type} {registry : Registry} {outside : Outside W} {turn : Turn W α}
    (h : turn.Plain registry outside) (f : α → β) : (turn.map f).Plain registry outside :=
  ⟨h.progress, h.plainly⟩

namespace Registry

variable (host : Host W) (registry : Registry) (outside : Outside W)

theorem plain_refuse {α : Type} (error : RegistryError) :
    Turn.Plain registry outside (registry.refuse outside error : Turn W α) :=
  ⟨rfl, .refl outside⟩

theorem plainly_commandManagers (commands : EngineManager → List ManagerCommand) :
    Plainly outside (registry.commandManagers host commands outside) :=
  .foldl (fun outside manager => plainly_commandAll host outside manager (commands manager)) _
    outside

theorem plain_create (account : String) :
    Turn.Plain registry outside (registry.create host account outside) := by
  rw [create]
  split
  · split
    · exact ⟨rfl, plainly_world outside _⟩
    · rename_i world _
      have asked := (Adds.world outside world).trans
        (adds_createSession host { outside with world } account
          registry.config.networkClass.isMainnet registry.config.coreDirectory)
      have plainly := asked.plainly (by simp [Effect.action?])
      split <;> rename_i heq <;> rw [heq] at plainly <;> exact ⟨rfl, plainly⟩
  · exact plain_refuse registry outside _

theorem plain_connect : Turn.Plain registry outside (registry.connect host outside) := by
  rw [connect]
  split
  · exact plain_refuse registry outside _
  · rename_i session _
    split
    · exact ⟨rfl, plainly_world outside _⟩
    · rename_i world _
      have loaded : Plainly outside (registry.settingsOrLoad host { outside with world }).2 := by
        refine (plainly_world outside world).trans ?_
        rw [settingsOrLoad]
        split
        · exact .refl _
        · exact (ConnectionSettings.onlyWrites_load host _).plainly
      have started := (adds_start host (registry.settingsOrLoad host { outside with world }).2
        session registry.undiscovered).plainly (by simp [Effect.action?])
      exact ⟨rfl, (loaded.trans started).trans (plainly_commandManagers host registry _ _)⟩

theorem plain_disconnect : Turn.Plain registry outside (registry.disconnect host outside) := by
  rw [disconnect]
  split
  · exact plain_refuse registry outside _
  · rename_i session _
    exact ⟨rfl, (plainly_commandManagers host registry outside _).trans
      ((adds_stop host _ session).plainly (by simp [Effect.action?]))⟩

/-- The end of a session publishes that all is over, which is plain as well. -/
theorem plainly_shutdown : Plainly outside (registry.shutdown host outside).outside := by
  rw [shutdown]
  split
  · exact .refl outside
  · have stopped : Plainly outside (registry.session.elim outside (outside.stop host)) := by
      cases registry.session with
      | none => exact .refl outside
      | some session => exact (adds_stop host outside session).plainly (by simp [Effect.action?])
    have closed (outside : Outside W) : Plainly outside (registry.closeReceipts outside) :=
      .foldl (fun outside (entry : CurrencyId × WalletController) =>
        WalletController.plainly_closePending entry.2.pending outside) _ outside
    exact ((stopped.trans (closed _)).trans (plainly_world _ _)).trans (plainly_publish _ _ trivial)

theorem plain_setMode (network : String) (mode : ManagerMode) :
    Turn.Plain registry outside (registry.setMode host network mode outside) := by
  rw [setMode]
  split
  · exact plain_refuse registry outside _
  · split
    · exact plain_refuse registry outside _
    · rename_i manager _
      split
      · have told := plainly_commandAll host outside manager (switchTo mode registry.isActive)
        dsimp only
        split
        · exact ⟨rfl, told⟩
        · rename_i settings _
          exact ⟨rfl, told.trans (ConnectionSettings.onlyWrites_choose host settings
            manager.network.currency mode _).plainly⟩
      · exact plain_refuse registry outside _

theorem plainly_publishTo (network : String) (change : WalletChange) (plain : change.IsPlain) :
    Plainly outside (registry.publishTo network change outside) := by
  rw [publishTo, publishAll, List.foldl_map]
  exact .foldl (fun outside uid =>
    plainly_publish outside (.walletChanged uid change) plain) _ outside

theorem plain_rescan (network : String) (depth : SyncDepth) :
    Turn.Plain registry outside (registry.rescan host network depth outside) := by
  rw [rescan]
  split
  · split
    · exact plain_refuse registry outside _
    · rename_i manager _
      have told := plainly_commandAll host outside manager [.connect, .syncToDepth depth]
      exact ⟨rfl, told.trans
        (plainly_publishTo registry _ network (.rescanning true) trivial)⟩
  · exact plain_refuse registry outside _

theorem plain_updateConnections (enabled : List CurrencyId) :
    Turn.Plain registry outside (registry.updateConnections host enabled outside) := by
  rw [updateConnections]
  split
  · exact ⟨rfl, plainly_commandManagers host registry outside _⟩
  · exact plain_refuse registry outside _

theorem plain_draft (uid : CurrencyId) (address : String) (amount : Amount) (fee : FeeBasis) :
    Turn.Plain registry outside (registry.draft host uid address amount fee outside) := by
  rw [draft]
  split
  · exact plain_refuse registry outside _
  · rename_i controller _
    refine ⟨rfl, ?_⟩
    dsimp only
    rw [WalletController.draft]
    split
    · exact .refl outside
    · split <;> exact plainly_world outside _

theorem plain_submit (uid : CurrencyId) (transfer : Transfer) (secret : Bytes) :
    Turn.Plain registry outside (registry.submit host uid transfer secret outside) := by
  rw [submit]
  split
  · exact plain_refuse registry outside _
  · split
    · exact plain_refuse registry outside _
    · rename_i subscribed
      refine ⟨rfl, (WalletController.plainly_subscribe subscribed).trans ?_⟩
      exact (plainly_log _ _ _).trans (plainly_command host _ _ _)

theorem plain_unsubscribe (uid : CurrencyId) (transfer : TransferId) :
    Turn.Plain registry outside (registry.unsubscribe uid transfer outside) := by
  rw [unsubscribe]
  split
  · exact plain_refuse registry outside _
  · rename_i controller _
    exact ⟨rfl, controller.plainly_unsubscribe transfer outside⟩

theorem plain_execute {command : Command} (other : command ≠ .shutdown) :
    Turn.Plain registry outside (registry.execute host command outside) := by
  cases command with
  | create account => exact (plain_create host registry outside account).map _
  | connect => exact (plain_connect host registry outside).map _
  | disconnect => exact (plain_disconnect host registry outside).map _
  | shutdown => exact absurd rfl other
  | setMode network mode => exact (plain_setMode host registry outside network mode).map _
  | rescan network depth => exact (plain_rescan host registry outside network depth).map _
  | updateConnections enabled =>
      exact (plain_updateConnections host registry outside enabled).map _
  | draft uid address amount fee =>
      exact (plain_draft host registry outside uid address amount fee).map _
  | submit uid transfer secret =>
      exact (plain_submit host registry outside uid transfer secret).map _
  | unsubscribe uid transfer => exact (plain_unsubscribe registry outside uid transfer).map _
  | snapshot => exact ⟨rfl, .refl outside⟩

theorem plain_addNetwork (network : Network) :
    Turn.Plain registry outside (registry.addNetwork host network outside) := by
  rw [addNetwork]
  split
  · exact ⟨rfl, .refl outside⟩
  · split
    · exact plain_refuse registry outside _
    · rename_i session _
      split
      · exact plain_refuse registry outside _
      · rename_i made _
        have chosen (registry : Registry) (outside : Outside W) :
            (registry.modeForNetwork host session network outside).2.1.progress =
              registry.progress := by
          rw [modeForNetwork]
          split
          · rfl
          · dsimp only
            split <;> rfl
        have published := plainly_publish outside
          (.currenciesUpdated (registry.register made).currencyList) trivial
        have written := (modeForNetwork_keeps host session network (registry.register made)
          (outside.publish (.currenciesUpdated (registry.register made).currencyList))).2
        exact ⟨chosen _ _, (published.trans written.plainly).trans
          ((adds_createManager host _ session network _ _).plainly (by simp [Effect.action?]))⟩

theorem plain_addManager (manager : EngineManager) :
    Turn.Plain registry outside (registry.addManager host manager outside) := by
  rw [addManager]
  split
  · exact plain_refuse registry outside _
  · refine ⟨rfl, ?_⟩
    dsimp only
    split
    · exact plainly_command host outside manager .connect
    · exact .refl outside

theorem plain_removeWallet (wallet : EngineWallet) :
    Turn.Plain registry outside (registry.removeWallet wallet outside) := by
  rw [removeWallet]
  dsimp only
  split
  · exact plain_refuse registry outside _
  · rename_i controller _
    exact ⟨rfl, (WalletController.plainly_closePending controller.pending outside).trans
      (plainly_publish _ _ trivial)⟩

theorem plain_withController (wallet : EngineWallet)
    {heed : WalletController → Outside W → WalletController × Outside W}
    (plainly : ∀ controller outside, Plainly outside (heed controller outside).2) :
    Turn.Plain registry outside (registry.withController wallet heed outside) := by
  rw [withController]
  dsimp only
  split
  · exact plain_refuse registry outside _
  · exact ⟨rfl, plainly _ outside⟩

theorem plain_handleNotice (notice : Notice) :
    Turn.Plain registry outside (registry.handleNotice host notice outside) := by
  rw [handleNotice]
  split
  · exact ⟨rfl, .refl outside⟩
  · rename_i settings _
    have read := (ConnectionSettings.onlyWrites_heed host notice settings outside).plainly
    split <;> rename_i heq <;> rw [heq] at read
    · exact ⟨rfl, read⟩
    · dsimp only
      split
      · exact ⟨rfl, read.trans
          (.foldl (fun outside manager => plainly_commandAll host outside manager _) _ _)⟩
      · exact ⟨rfl, read⟩

/-- Of the engine's events, only those of a manager can do more than what is plain. -/
theorem plain_dispatch {event : EngineEvent}
    (other : ∀ manager news, event ≠ .manager manager news) :
    Turn.Plain registry outside (registry.dispatch host event outside) := by
  cases event with
  | system event =>
      cases event with
      | created => exact ⟨rfl, .refl outside⟩
      | networkAdded network => exact plain_addNetwork host registry outside network
      | managerAdded manager => exact plain_addManager host registry outside manager
  | manager manager news => exact absurd rfl (other manager news)
  | wallet _ wallet event =>
      have heeded := plain_withController registry outside wallet
        fun controller => controller.plainly_heedWalletEvent host event
      cases event with
      | created | changed | deleted => exact ⟨rfl, .refl outside⟩
      | transferAdded | transferChanged | transferDeleted | transferSubmitted | balanceUpdated
      | feeBasisUpdated => exact heeded
  | transfer _ wallet transfer event =>
      exact plain_withController registry outside wallet
        fun controller => controller.plainly_heedTransferEvent host transfer.id event

end Registry

end MultiWallet
