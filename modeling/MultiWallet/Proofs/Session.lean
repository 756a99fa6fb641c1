import MultiWallet.Proofs.Modes

/-!
What a registry holds at each stage of its life. Without a session it is as fresh as
on the first day; from the first connection on it has its settings; and what it holds
in between fits together. Turns that fail half-way do not matter: what they leave is
one of the outcomes that all turns have. From one end of a session to the next, what
is registered stays as it was registered.
-/

namespace MultiWallet

open Outside

variable {W : Type}

namespace Registry

/-- What holds of a registry at all times. -/
structure Consistent (registry : Registry) : Prop where
  /-- There is a session exactly from its creation to its end. -/
  session : registry.session.isSome ↔ registry.lifecycle ≠ .uninitialized
  /-- Without a session there is no currency, manager, wallet or catalog entry, and there
  are no settings and no progress. -/
  vacant : registry.lifecycle = .uninitialized → registry = .fresh registry.config
  loaded : registry.lifecycle = .active → registry.settings.isSome
  currencies : ∀ (uid : CurrencyId) (currency : Currency),
    registry.currencies[uid]? = some currency → currency.uid = uid
  managers : ∀ (id : String) (manager : EngineManager),
    registry.managers[id]? = some manager → manager.network.id = id
  /-- A wallet is one of the registered currency, in the registry's as in the engine's
  view. -/
  wallets : ∀ (uid : CurrencyId) (controller : WalletController),
    registry.wallets[uid]? = some controller →
      registry.currencies[uid]? = some controller.currency ∧
        controller.wallet.currency.uid = uid

/-! ### Turns -/

section Turns

variable {host : Host W} {registry : Registry} {outside : Outside W}

/-- Nothing but the creation of a session does anything to a fresh registry. -/
theorem handle_fresh (config : Config) {input : Input}
    (other : ∀ account, input ≠ .command (.create account)) :
    ((fresh config).handle host input outside).registry = fresh config := by
  cases input with
  | event event => rfl
  | notice notice => rfl
  | command command =>
      cases command with
      | create account => exact absurd rfl (other account)
      | connect | disconnect | shutdown | setMode | rescan | updateConnections | snapshot => rfl
      | draft | submit | unsubscribe =>
          simp [handle, execute, draft, submit, unsubscribe, fresh, refuse, Turn.map]

theorem settings_withController (wallet : EngineWallet)
    (heed : WalletController → Outside W → WalletController × Outside W) :
    (registry.withController wallet heed outside).registry.settings = registry.settings := by
  rw [withController]
  dsimp only
  split <;> rfl

theorem unloaded_execute {command : Command} (other : command ≠ .shutdown)
    (unloaded : (registry.execute host command outside).registry.settings = none) :
    registry.settings = none := by
  cases command with
  | create account => exact unloaded_create unloaded
  | connect => exact unloaded_connect unloaded
  | disconnect => exact unloaded_disconnect unloaded
  | shutdown => exact absurd rfl other
  | setMode network mode => exact unloaded_setMode unloaded
  | snapshot => exact unloaded
  | rescan network depth =>
      simp only [execute, Turn.map, rescan] at unloaded
      repeat' split at unloaded
      all_goals exact unloaded
  | updateConnections enabled =>
      simp only [execute, Turn.map, updateConnections] at unloaded
      split at unloaded <;> exact unloaded
  | draft uid address amount fee =>
      simp only [execute, Turn.map, draft] at unloaded
      split at unloaded <;> exact unloaded
  | submit uid transfer secret =>
      simp only [execute, Turn.map, submit] at unloaded
      repeat' split at unloaded
      all_goals exact unloaded
  | unsubscribe uid transfer =>
      simp only [execute, Turn.map, unsubscribe] at unloaded
      split at unloaded <;> exact unloaded

theorem unloaded_dispatch {event : EngineEvent}
    (unloaded : (registry.dispatch host event outside).registry.settings = none) :
    registry.settings = none := by
  cases event with
  | system event =>
      cases event with
      | created => exact unloaded
      | networkAdded network => exact unloaded_addNetwork unloaded
      | managerAdded manager => exact unloaded_addManager unloaded
  | manager manager event =>
      cases event with
      | walletAdded wallet =>
          simp only [dispatch, handleManager, addWallet] at unloaded
          repeat' split at unloaded
          all_goals exact unloaded
      | walletDeleted wallet =>
          simp only [dispatch, handleManager, removeWallet] at unloaded
          split at unloaded <;> exact unloaded
      | syncStarted | syncProgress | syncEnded | blockUpdated => exact unloaded
      | created | changed | deleted | walletChanged => exact unloaded
  | wallet manager wallet event =>
      cases event with
      | created | changed | deleted => exact unloaded
      | transferAdded | transferChanged | transferDeleted | transferSubmitted
      | balanceUpdated | feeBasisUpdated =>
          exact (settings_withController wallet _).symm.trans unloaded
  | transfer manager wallet transfer event =>
      exact (settings_withController wallet _).symm.trans unloaded

/-- Settings that were loaded stay so until the session ends. -/
theorem unloaded_handle {input : Input} (other : input ≠ .command .shutdown)
    (unloaded : (registry.handle host input outside).registry.settings = none) :
    registry.settings = none := by
  cases input with
  | command command => exact unloaded_execute (fun same => other (congrArg _ same)) unloaded
  | notice notice => exact unloaded_handleNotice unloaded
  | event event =>
      simp only [handle, Turn.map, handleEvent] at unloaded
      split at unloaded
      · exact unloaded
      · exact unloaded_dispatch unloaded

end Turns

end Registry

/-! ### Runs -/

namespace Scene

variable {config : Config} {scene : Scene W}

/-- A registry that comes to be without a session comes to be a fresh one. -/
theorem Sound.vacant_after (sound : scene.Sound config)
    (vacant : scene.registry.lifecycle = .uninitialized → scene.registry = .fresh config)
    (host : Host W) (happening : Happening W)
    (closed : (scene.after host happening).registry.lifecycle = .uninitialized) :
    (scene.after host happening).registry = .fresh config := by
  cases happening with
  | meanwhile world receipts => exact vacant closed
  | given input =>
      by_cases opened : scene.registry.lifecycle = .uninitialized
      · by_cases asked : ∃ account, input = .command (.create account)
        · obtain ⟨account, rfl⟩ := asked
          rcases scene.create_cases host account with ⟨-, -, idle⟩ | ⟨-, same⟩
          · rw [Scene.after, idle] at closed
            cases closed
          · exact same.trans (vacant opened)
        · rw [Scene.after, turn, vacant opened]
          exact Registry.handle_fresh config (not_exists.1 asked)
      · by_cases ended : input = .command .shutdown
        · subst ended
          change (scene.registry.shutdown host scene.outside).registry = _
          rw [Registry.shutdown, if_neg opened, sound.registry.config]
        · exact absurd closed (sound.initialized_after host opened (by simpa using ended))

/-- A registry that comes to be active has its settings by then. -/
theorem Sound.loaded_after (sound : scene.Sound config)
    (loaded : scene.registry.lifecycle = .active → scene.registry.settings.isSome)
    (host : Host W) (happening : Happening W)
    (active : (scene.after host happening).registry.lifecycle = .active) :
    (scene.after host happening).registry.settings.isSome := by
  cases happening with
  | meanwhile world receipts => exact loaded active
  | given input =>
      by_cases ended : input = .command .shutdown
      · subst ended
        rw [uninitialized_after_shutdown] at active
        cases active
      have kept (before : scene.registry.settings.isSome) :
          (scene.after host (.given input)).registry.settings.isSome := by
        rw [← Option.ne_none_iff_isSome] at before ⊢
        exact mt (Registry.unloaded_handle ended) before
      obtain ⟨effects, -, outcome⟩ := sound.after_given host input
      generalize (scene.after host (.given input)).registry = next at outcome active kept ⊢
      cases outcome with
      | quiet alike => exact kept (loaded (alike.lifecycle.symm.trans active))
      | asked closed made =>
          rcases made with rfl | ⟨session, rfl⟩
          · exact loaded active
          · cases active
      | connected => rfl
      | disconnected => cases active
      | ended => cases active
      | network _ _ _ alike => exact kept (loaded (alike.lifecycle.symm.trans active))
      | manager | wallet | removal => exact kept (loaded active)

/-- Each wallet is under the id that the engine knows it by. -/
def Named (scene : Scene W) : Prop :=
  ∀ (uid : CurrencyId) (controller : WalletController),
    scene.registry.wallets[uid]? = some controller → controller.wallet.currency.uid = uid

theorem Sound.named_after (sound : scene.Sound config) (named : scene.Named) (host : Host W)
    (happening : Happening W) : (scene.after host happening).Named := by
  cases happening with
  | meanwhile world receipts => exact named
  | given input =>
      obtain ⟨effects, -, outcome⟩ := sound.after_given host input
      have ofAlike {before next : Registry} (alike : Registry.Alike before next)
          (wallets : before.wallets = scene.registry.wallets) (uid : CurrencyId)
          (controller : WalletController) (found : next.wallets[uid]? = some controller) :
          controller.wallet.currency.uid = uid := by
        obtain ⟨old, was, same⟩ := alike.exists_wallet found
        rw [← WalletController.wallet_eq_of_bare same]
        exact named uid old (wallets ▸ was)
      intro uid controller
      generalize (scene.after host (.given input)).registry = next at outcome ⊢
      intro found
      cases outcome with
      | quiet alike => exact ofAlike alike rfl uid controller found
      | asked _ made => rcases made with rfl | ⟨session, rfl⟩ <;> exact named uid controller found
      | connected | disconnected | manager => exact named uid controller found
      | ended => simp [Registry.fresh] at found
      | network _ _ _ alike => exact ofAlike alike rfl uid controller found
      | wallet =>
          rw [Registry.withWallet, Std.ExtTreeMap.getElem?_insert] at found
          split at found
          · rename_i same
            cases found
            exact Std.LawfulEqOrd.eq_of_compare same
          · exact named uid controller found
      | removal =>
          rw [Std.ExtTreeMap.getElem?_erase] at found
          split at found
          · cases found
          · exact named uid controller found

/-- Whether what happens ends no session: it is no shutdown, or there is no session. -/
def GoesOn (scene : Scene W) (happening : Happening W) : Prop :=
  happening = .given (.command .shutdown) → scene.registry.lifecycle = .uninitialized

/-- What is registered stays so, unless the session ends. -/
theorem Sound.registered_after (sound : scene.Sound config) (host : Host W)
    {happening : Happening W} (goesOn : scene.GoesOn happening) {uid : CurrencyId}
    {currency : Currency} (found : scene.registry.currencies[uid]? = some currency) :
    (scene.after host happening).registry.currencies[uid]? = some currency := by
  cases happening with
  | meanwhile world receipts => exact found
  | given input =>
      obtain ⟨effects, -, outcome⟩ := sound.after_given host input
      generalize (scene.after host (.given input)).registry = next at outcome ⊢
      cases outcome with
      | quiet alike => rw [alike.currencies, found]
      | asked _ made => rcases made with rfl | ⟨session, rfl⟩ <;> exact found
      | connected | disconnected | manager | wallet | removal => exact found
      | ended initialized => exact absurd (goesOn rfl) initialized
      | network _ _ enlisted alike =>
          rw [alike.currencies]
          exact Registry.getElem?_register_of_enlist enlisted found

theorem Sound.consistent (sound : scene.Sound config)
    (vacant : scene.registry.lifecycle = .uninitialized → scene.registry = .fresh config)
    (loaded : scene.registry.lifecycle = .active → scene.registry.settings.isSome)
    (named : scene.Named) : scene.registry.Consistent where
  session := by rw [← Option.ne_none_iff_isSome, ne_eq, sound.registry.session]
  vacant := by rw [sound.registry.config]; exact vacant
  loaded := loaded
  currencies := sound.registry.keyed
  managers := sound.registry.placed
  wallets uid controller found :=
    ⟨sound.registry.enrolled uid controller found, named uid controller found⟩

end Scene

/-- After any run the registry is consistent, and from the end of one session to the end of
the next what is registered stays as it was registered. -/
theorem registry_consistent_all_along (host : Host W) (config : Config) (world : W)
    (happenings : List (Happening W)) :
    let first := Scene.first config world
    (first.run host happenings).registry.Consistent ∧
      ∀ earlier later, happenings = earlier ++ later →
        Scene.Each host Scene.GoesOn (first.run host earlier) later →
          ∀ (uid : CurrencyId) (currency : Currency),
            (first.run host earlier).registry.currencies[uid]? = some currency →
              (first.run host happenings).registry.currencies[uid]? = some currency := by
  intro first
  have sound (earlier : List (Happening W)) : (first.run host earlier).Sound config :=
    (Scene.Sound.first config world).run host earlier
  constructor
  · obtain ⟨-, vacant, loaded, named⟩ := Scene.run_keeps
      (P := fun scene => scene.Sound config ∧
        (scene.registry.lifecycle = .uninitialized → scene.registry = .fresh config) ∧
        (scene.registry.lifecycle = .active → scene.registry.settings.isSome) ∧ scene.Named)
      (by
        rintro scene happening ⟨sound, vacant, loaded, named⟩
        exact ⟨sound.after host happening, sound.vacant_after vacant host happening,
          sound.loaded_after loaded host happening, sound.named_after named host happening⟩)
      ⟨.first config world, fun _ => rfl, nofun,
        fun uid controller found => by simp [Scene.first, Registry.fresh] at found⟩
      happenings
    exact (sound happenings).consistent vacant loaded named
  · rintro earlier later rfl goesOn uid currency found
    rw [Scene.run_append]
    exact (Scene.run_keeps_while
      (P := fun scene => scene.Sound config ∧ scene.registry.currencies[uid]? = some currency)
      (by
        rintro scene happening ⟨sound, found⟩ goesOn
        exact ⟨sound.after host happening, sound.registered_after host goesOn found⟩)
      ⟨sound earlier, found⟩ goesOn).2

end MultiWallet
