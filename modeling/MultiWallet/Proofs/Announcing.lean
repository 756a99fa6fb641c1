import MultiWallet.Proofs.Mirror

/-!
News about the synchronization of a network. The registry announces it wallet by
wallet, by one action for each currency of the network, in no order that anybody may
rely on. None is needed: an action about a wallet only alters what is shown for that
one, so that actions about different wallets commute, and a row of announcements comes
to the same state in whatever order it is taken.
-/

namespace MultiWallet

open Outside

variable {W : Type}

/-! ### Actions about one wallet -/

namespace StateAction

/-- The id of the wallet that an action is about, if it is about one only. -/
def wallet? : StateAction → Option CurrencyId
  | walletAdded currency _ _ => some currency.uid
  | walletRemoved uid => some uid
  | walletChanged uid _ => some uid
  | currenciesUpdated _ | reset => none

/-- What is shown for the wallet afterwards, by what was shown before. -/
def alter : StateAction → Option WalletState → Option WalletState
  | walletAdded currency balance transfers, _ =>
    some { WalletState.fresh currency with balance := some balance, transfers }
  | walletRemoved _, _ => none
  | walletChanged _ change, shown => shown.map (·.apply change)
  | currenciesUpdated _, shown | reset, shown => shown

/-- One change for each of some wallets. -/
def changes (uids : List CurrencyId) (change : WalletChange) : List StateAction :=
  uids.map (walletChanged · change)

end StateAction

namespace AppState

variable {app : AppState}

theorem ext {app other : AppState} (currencies : app.currencies = other.currencies)
    (wallets : ∀ uid : CurrencyId, app.wallets[uid]? = other.wallets[uid]?) : app = other := by
  obtain ⟨_, _⟩ := app
  obtain ⟨_, _⟩ := other
  congr
  exact Std.ExtTreeMap.ext_getElem? wallets

/-- An action about a wallet leaves the list of currencies. -/
theorem currencies_apply {action : StateAction} {uid : CurrencyId}
    (about : action.wallet? = some uid) (app : AppState) :
    (app.apply action).currencies = app.currencies := by
  cases action with
  | walletChanged other change => exact app.currencies_apply_walletChanged other change
  | walletAdded | walletRemoved => rfl
  | currenciesUpdated | reset => cases about

/-- An action about a wallet alters what is shown for that one, and for no other. -/
theorem getElem?_apply {action : StateAction} {uid : CurrencyId}
    (about : action.wallet? = some uid) (app : AppState) (other : CurrencyId) :
    (app.apply action).wallets[other]? =
      if uid = other then action.alter app.wallets[other]? else app.wallets[other]? := by
  cases action with
  | walletAdded currency balance transfers =>
      cases about
      rw [apply, Std.ExtTreeMap.getElem?_insert]
      simp only [Std.LawfulEqOrd.compare_eq_iff_eq]
      rfl
  | walletRemoved =>
      cases about
      rw [apply, Std.ExtTreeMap.getElem?_erase]
      simp only [Std.LawfulEqOrd.compare_eq_iff_eq]
      rfl
  | walletChanged _ change =>
      cases about
      rw [apply]
      split
      · -- Without the wallet nothing happens, and there is nothing to alter.
        rename_i absent
        split
        · rename_i same
          rw [← same, absent]
          rfl
        · rfl
      · rename_i wallet shown
        rw [Std.ExtTreeMap.getElem?_insert]
        simp only [Std.LawfulEqOrd.compare_eq_iff_eq]
        split
        · rename_i same
          rw [← same, shown]
          rfl
        · rfl
  | currenciesUpdated | reset => cases about

/-- Actions about different wallets commute. -/
theorem apply_comm {first second : StateAction} {uid other : CurrencyId}
    (about : first.wallet? = some uid) (about' : second.wallet? = some other)
    (differ : uid ≠ other) (app : AppState) :
    (app.apply first).apply second = (app.apply second).apply first := by
  refine ext ?_ fun here => ?_
  · rw [currencies_apply about', currencies_apply about, currencies_apply about,
      currencies_apply about']
  · rw [getElem?_apply about', getElem?_apply about, getElem?_apply about, getElem?_apply about']
    by_cases isFirst : uid = here
    · have notSecond : ¬other = here := fun isSecond => differ (isFirst.trans isSecond.symm)
      rw [if_neg notSecond, if_neg notSecond]
    · rw [if_neg isFirst, if_neg isFirst]

/-! ### One change for many wallets -/

/-- In whatever order the changes are taken, they come to the same state. -/
theorem applyAll_changes_perm {uids : List CurrencyId} {change : WalletChange}
    {order : List StateAction} (perm : order.Perm (StateAction.changes uids change))
    (app : AppState) :
    app.applyAll order = app.applyAll (StateAction.changes uids change) := by
  refine perm.foldl_eq' (fun first mem second mem' app => ?_) app
  obtain ⟨uid, -, rfl⟩ := List.mem_map.1 (perm.mem_iff.1 mem)
  obtain ⟨other, -, rfl⟩ := List.mem_map.1 (perm.mem_iff.1 mem')
  by_cases same : uid = other
  · rw [same]
  · exact apply_comm rfl rfl same app

theorem currencies_applyAll_changes (uids : List CurrencyId) (change : WalletChange)
    (app : AppState) :
    (app.applyAll (StateAction.changes uids change)).currencies = app.currencies := by
  induction uids generalizing app with
  | nil => rfl
  | cons uid rest ih => exact (ih _).trans (currencies_apply rfl app)

/-- Each of the wallets is changed once, and no other one. -/
theorem getElem?_applyAll_changes {uids : List CurrencyId} (nodup : uids.Nodup)
    (change : WalletChange) (app : AppState) (uid : CurrencyId) :
    (app.applyAll (StateAction.changes uids change)).wallets[uid]? =
      if uid ∈ uids then app.wallets[uid]?.map (·.apply change) else app.wallets[uid]? := by
  induction uids generalizing app with
  | nil => rfl
  | cons first rest ih =>
      obtain ⟨isNew, nodup⟩ := List.nodup_cons.1 nodup
      change ((app.apply (.walletChanged first change)).applyAll
        (StateAction.changes rest change)).wallets[uid]? = _
      rw [ih nodup, getElem?_apply rfl]
      by_cases here : first = uid
      · subst here
        rw [if_neg isNew, if_pos rfl, if_pos List.mem_cons_self]
        rfl
      · have others : uid ∈ first :: rest ↔ uid ∈ rest := by
          rw [List.mem_cons, or_iff_right fun same => here same.symm]
        simp only [here, others, if_false]

end AppState

/-! ### News of a network -/

/-- What can be learned about the synchronization of a network. -/
inductive SyncNews where
  | started (manager : EngineManager)
  | progress (manager : EngineManager) (percent : Float) (timestamp : Option Instant)
  | ended (manager : EngineManager) (error : Option String)
  /-- It begins again from some depth on. -/
  | rescan (network : String) (depth : SyncDepth)

namespace SyncNews

/-- The id of the network. -/
def network : SyncNews → String
  | started manager | progress manager _ _ | ended manager _ => manager.network.id
  | rescan network _ => network

/-- How the registry learns of it. -/
def input : SyncNews → Input
  | started manager => .event (.manager manager .syncStarted)
  | progress manager percent timestamp =>
    .event (.manager manager (.syncProgress percent timestamp))
  | ended manager error => .event (.manager manager (.syncEnded error))
  | rescan network depth => .command (.rescan network depth)

/-- The change that is announced for every wallet. -/
def change : SyncNews → WalletChange
  | started _ => .syncState .syncing
  | progress _ percent timestamp => .syncProgress percent timestamp
  | ended _ none => .syncState .success
  | ended _ (some _) => .syncState .connecting
  | rescan _ _ => .rescanning true

/-- What becomes of a wallet that is told the news. -/
def effect : SyncNews → WalletState → WalletState
  | started _, wallet => { wallet with syncState := .syncing }
  | progress _ percent (some timestamp), wallet =>
    { wallet with progress := percent, lastBlock := some timestamp }
  | progress _ percent none, wallet => { wallet with progress := percent }
  | ended _ none, wallet =>
    { wallet with syncState := .success, isRescanning := false, progress := 100 }
  | ended _ (some _), wallet => { wallet with syncState := .connecting, isRescanning := false }
  | rescan _ _, wallet => { wallet with isRescanning := true }

theorem apply_change (news : SyncNews) (wallet : WalletState) :
    wallet.apply news.change = news.effect wallet := by
  cases news with
  | started => simp [change, effect, WalletState.apply]
  | progress _ _ timestamp => cases timestamp <;> rfl
  | ended _ error => cases error <;> simp [change, effect, WalletState.apply]
  | rescan => rfl

/-- The news leaves alone what the wallet holds. -/
theorem holdings_effect (news : SyncNews) (wallet : WalletState) :
    (news.effect wallet).balance = wallet.balance ∧
      (news.effect wallet).transfers = wallet.transfers := by
  cases news with
  | started | rescan => exact ⟨rfl, rfl⟩
  | progress _ _ timestamp => cases timestamp <;> exact ⟨rfl, rfl⟩
  | ended _ error => cases error <;> exact ⟨rfl, rfl⟩

end SyncNews

/-! ### Announcing -/

namespace Registry

variable {registry : Registry} {config : Config}

theorem Sound.mem_currenciesOf (h : registry.Sound config) {network : String}
    {uid : CurrencyId} : uid ∈ registry.currenciesOf network ↔
      ∃ currency, registry.currencies[uid]? = some currency ∧ currency.networkId = network := by
  rw [currenciesOf, List.mem_map]
  constructor
  · rintro ⟨currency, mem, rfl⟩
    obtain ⟨listed, there⟩ := List.mem_filter.1 mem
    exact ⟨currency, (h.mem_currencyList currency).1 listed, beq_iff_eq.1 there⟩
  · rintro ⟨currency, found, there⟩
    obtain rfl := h.keyed uid currency found
    exact ⟨currency, List.mem_filter.2 ⟨(h.mem_currencyList currency).2 found,
      beq_iff_eq.2 there⟩, rfl⟩

theorem Sound.nodup_currenciesOf (h : registry.Sound config) (network : String) :
    (registry.currenciesOf network).Nodup := by
  rw [currenciesOf, List.Nodup, List.pairwise_map]
  refine (h.ascending_currencyList.filter _).imp fun less same => ?_
  rw [same, Std.ReflOrd.compare_self] at less
  cases less

theorem adds_publishTo {outside : Outside W} (heard : outside.isHeard = true)
    (registry : Registry) (network : String) (change : WalletChange) :
    Adds outside (registry.publishTo network change outside)
      ((StateAction.changes (registry.currenciesOf network) change).map .published) :=
  adds_foldl publish .published (fun outside => outside.isHeard = true)
    (fun _ action h => (adds_publish h action).isHeard.trans h)
    (fun _ action h => adds_publish h action) _ heard

/-- After effects that nobody hears, only the announcements are published. -/
theorem actions_publishTo {before outside : Outside W} {effects : List Effect}
    (heard : before.isHeard = true) (added : Adds before outside effects)
    (silent : ∀ effect ∈ effects, effect.action? = none) (registry : Registry)
    (network : String) (change : WalletChange) :
    (registry.publishTo network change outside).actions =
      before.actions ++ StateAction.changes (registry.currenciesOf network) change := by
  have announced := added.trans
    (adds_publishTo (added.isHeard.trans heard) registry network change)
  rw [announced.actions, List.filterMap_append, List.filterMap_eq_nil_iff.2 silent,
    List.nil_append, List.filterMap_map]
  exact congrArg (before.actions ++ ·) List.filterMap_some

end Registry

namespace Scene

variable {config : Config} {scene : Scene W}

/-- Without a session an event is dropped, and there is no currency to announce it for. -/
theorem Sound.actions_turn_event (sound : scene.Sound config) (host : Host W)
    (manager : EngineManager) {event : ManagerEvent} {change : WalletChange}
    (announced : (scene.registry.handleManager host manager event scene.outside).outside.actions =
      scene.outside.actions ++
        StateAction.changes (scene.registry.currenciesOf manager.network.id) change) :
    (scene.turn host (.event (.manager manager event))).outside.actions =
      scene.outside.actions ++
        StateAction.changes (scene.registry.currenciesOf manager.network.id) change := by
  change (scene.registry.handleEvent host (.manager manager event) scene.outside).outside.actions
    = _
  rw [Registry.handleEvent]
  split
  · rename_i closed
    have none : scene.registry.currenciesOf manager.network.id = [] := by
      rw [Registry.currenciesOf, Registry.currencyList, (sound.registry.vacant closed).1]
      simp
    rw [none]
    exact (List.append_nil _).symm
  · exact announced

/-- The actions published on some news are one for each currency of the network. -/
theorem Sound.actions_turn (sound : scene.Sound config) (host : Host W) (news : SyncNews)
    (carriedOut : ∀ network depth, news = .rescan network depth →
      (scene.turn host news.input).answer = .ok .done) :
    (scene.turn host news.input).outside.actions = scene.outside.actions ++
      StateAction.changes (scene.registry.currenciesOf news.network) news.change := by
  have logged (lines : List LogLine) (network : String) (change : WalletChange) :=
    Registry.actions_publishTo sound.heard (scene.outside.adds_logAll lines)
      (by simp [Effect.action?]) scene.registry network change
  cases news with
  | started manager => exact sound.actions_turn_event host manager (logged _ _ _)
  | progress manager => exact sound.actions_turn_event host manager (logged _ _ _)
  | ended manager error =>
      cases error <;> exact sound.actions_turn_event host manager (logged _ _ _)
  | rescan network depth =>
      have answered := carriedOut network depth rfl
      change (scene.registry.rescan host network depth scene.outside).answer.map _ = _ at answered
      change (scene.registry.rescan host network depth scene.outside).outside.actions = _
      rw [Registry.rescan] at answered ⊢
      by_cases active : scene.registry.lifecycle = .active
      · rw [if_pos active] at answered ⊢
        cases found : scene.registry.managers[network]? with
        | none =>
            rw [found] at answered
            cases answered
        | some manager =>
            exact Registry.actions_publishTo sound.heard
              (scene.outside.adds_commandAll host manager _) (by simp [Effect.action?])
              scene.registry network _
      · rw [if_neg active] at answered
        cases answered

end Scene

/-- After any run, what is published on the beginning, the progress or the end of a sync, or
on a rescan that is carried out, is one action for each registered currency of the network,
and no other. In whatever order these are taken, and whatever was shown before, they come
to one state: each wallet of the network that is shown is changed as the news says, and
nothing else is; no wallet has another balance or other transfers. All actions about
different wallets commute. -/
theorem sync_news_announced (host : Host W) (config : Config) (world : W)
    (happenings : List (Happening W)) (news : SyncNews) :
    let scene := (Scene.first config world).run host happenings
    let turn := scene.turn host news.input
    ((∀ network depth, news = .rescan network depth → turn.answer = .ok .done) →
      ∃ uids : List CurrencyId,
        turn.outside.actions = scene.outside.actions ++ StateAction.changes uids news.change ∧
        uids.Nodup ∧
        (∀ uid : CurrencyId, uid ∈ uids ↔ ∃ currency,
          scene.registry.currencies[uid]? = some currency ∧
            currency.networkId = news.network) ∧
        ∀ (app : AppState) (order : List StateAction),
          order.Perm (StateAction.changes uids news.change) →
            app.applyAll order = app.applyAll (StateAction.changes uids news.change) ∧
            (app.applyAll order).currencies = app.currencies ∧
            ∀ uid : CurrencyId,
              (app.applyAll order).wallets[uid]? =
                (if uid ∈ uids then app.wallets[uid]?.map news.effect else app.wallets[uid]?) ∧
              (app.applyAll order).wallets[uid]?.map WalletState.balance =
                app.wallets[uid]?.map WalletState.balance ∧
              (app.applyAll order).wallets[uid]?.map WalletState.transfers =
                app.wallets[uid]?.map WalletState.transfers) ∧
      ∀ (first second : StateAction) (uid other : CurrencyId), first.wallet? = some uid →
        second.wallet? = some other → uid ≠ other → ∀ app : AppState,
          (app.apply first).apply second = (app.apply second).apply first := by
  intro scene turn
  have sound : scene.Sound config := (Scene.Sound.first config world).run host happenings
  refine ⟨fun carriedOut => ?_, fun _ _ _ _ about about' differ app =>
    AppState.apply_comm about about' differ app⟩
  have nodup := sound.registry.nodup_currenciesOf news.network
  refine ⟨scene.registry.currenciesOf news.network, sound.actions_turn host news carriedOut,
    nodup, fun _ => sound.registry.mem_currenciesOf, fun app order perm => ?_⟩
  have same := AppState.applyAll_changes_perm perm app
  rw [same]
  refine ⟨rfl, AppState.currencies_applyAll_changes _ _ app, fun uid => ?_⟩
  have shown := AppState.getElem?_applyAll_changes nodup news.change app uid
  simp only [news.apply_change] at shown
  refine ⟨shown, ?_⟩
  rw [shown]
  split
  · simp [Function.comp_def, news.holdings_effect]
  · exact ⟨rfl, rfl⟩

/-- A rescan of a network with one currency marks the wallet of that one. -/
theorem bitcoin_rescan_announced :
    let host := Host.granting .bitcoin fun _ => []
    let uid := Network.bitcoin.currency
    let scene := (Scene.first .standard []).run host
      [.given (.command (.create "")), .given (.command .connect),
        .given (.event (.system (.networkAdded .bitcoin))),
        .given (.event (.system (.managerAdded ⟨0, .bitcoin⟩)))]
    let news : SyncNews := .rescan "bitcoin-mainnet" .creation
    let turn := scene.turn host news.input
    turn.answer = .ok .done ∧
      ∃ uids : List CurrencyId,
        turn.outside.actions = scene.outside.actions ++
          StateAction.changes uids (.rescanning true) ∧
        ∀ (app : AppState) (wallet : WalletState), app.wallets[uid]? = some wallet →
          (app.applyAll (StateAction.changes uids.reverse (.rescanning true))).wallets[uid]? =
            some { wallet with isRescanning := true } := by
  intro host uid scene news turn
  have answered : turn.answer = .ok .done := rfl
  obtain ⟨uids, published, -, named, reached⟩ :=
    (sync_news_announced host .standard [] _ news).1 fun _ _ _ => answered
  refine ⟨answered, uids, published, fun app wallet shown => ?_⟩
  have mem : uid ∈ uids := by
    have registered : uid ∈ scene.registry.currenciesOf "bitcoin-mainnet" := by decide +kernel
    have sound : scene.Sound .standard := (Scene.Sound.first .standard []).run host _
    exact (named uid).2 (sound.registry.mem_currenciesOf.1 registered)
  obtain ⟨-, -, each⟩ := reached app _ (uids.reverse_perm.map _)
  have here := (each uid).1
  rw [if_pos mem, shown] at here
  exact here

end MultiWallet
