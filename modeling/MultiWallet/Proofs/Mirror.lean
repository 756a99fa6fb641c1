import MultiWallet.Proofs.Run
import MultiWallet.State.Basic

/-!
The application's state mirrors the registry. The two are kept apart, and all that
goes from the one to the other are the published actions; still they agree on the
currencies and on the wallets after every turn, whatever became of it.
-/

namespace MultiWallet

open Outside

variable {W : Type}

@[simp] theorem WalletState.apply_currency (wallet : WalletState) (change : WalletChange) :
    (wallet.apply change).currency = wallet.currency := by
  cases change <;> rfl

namespace AppState

/-! ### The state under actions -/

@[simp] theorem applyAll_nil (app : AppState) : app.applyAll [] = app := rfl

@[simp] theorem applyAll_cons (app : AppState) (action : StateAction)
    (rest : List StateAction) :
    app.applyAll (action :: rest) = (app.apply action).applyAll rest := rfl

theorem applyAll_append (app : AppState) (earlier later : List StateAction) :
    app.applyAll (earlier ++ later) = (app.applyAll earlier).applyAll later :=
  List.foldl_append

/-- The currency of the wallet that is shown for an id. -/
def currency? (app : AppState) (uid : CurrencyId) : Option Currency :=
  app.wallets[uid]?.map WalletState.currency

/-- A change of a wallet that is shown leaves it the wallet of its currency, and
one of another wallet does nothing. -/
theorem currency?_apply_walletChanged (app : AppState) (uid other : CurrencyId)
    (change : WalletChange) :
    (app.apply (.walletChanged other change)).currency? uid = app.currency? uid := by
  rw [currency?, currency?, apply]
  split
  · rfl
  · rename_i wallet found
    rw [Std.ExtTreeMap.getElem?_insert]
    split
    · rename_i same
      obtain rfl := Std.LawfulEqOrd.eq_of_compare same
      rw [found, Option.map_some, Option.map_some, WalletState.apply_currency]
    · rfl

theorem currencies_apply_walletChanged (app : AppState) (uid : CurrencyId)
    (change : WalletChange) :
    (app.apply (.walletChanged uid change)).currencies = app.currencies := by
  rw [apply]
  split <;> rfl

/-! ### Mirroring -/

/-- The state shows the currencies of the registry, and one wallet for each of its
wallets, with the currency of that one. -/
structure Mirrors (app : AppState) (registry : Registry) : Prop where
  currencies : app.currencies = registry.currencyList
  wallets : ∀ uid : CurrencyId,
    app.currency? uid = registry.wallets[uid]?.map WalletController.currency

namespace Mirrors

variable {app : AppState} {before after : Registry}

theorem fresh (config : Config) : Mirrors .empty (.fresh config) where
  currencies := by simp [empty, Registry.fresh, Registry.currencyList]
  wallets uid := by simp [currency?, empty, Registry.fresh]

theorem currency_wallets_of_alike (alike : Registry.Alike before after) (uid : CurrencyId) :
    after.wallets[uid]?.map WalletController.currency =
      before.wallets[uid]?.map WalletController.currency := by
  have same := congrArg (Option.map WalletController.currency) (alike.wallets uid)
  rw [Option.map_map, Option.map_map] at same
  exact same

theorem of_alike (h : Mirrors app before) (alike : Registry.Alike before after) :
    Mirrors app after where
  currencies := by
    rw [h.currencies, Registry.currencyList, Registry.currencyList, alike.currencies]
  wallets uid := (h.wallets uid).trans (currency_wallets_of_alike alike uid).symm

/-- Quiet effects publish changes of wallets at most. -/
theorem of_quiet (h : Mirrors app before) {effects : List Effect}
    (quiet : ∀ effect ∈ effects, effect.IsQuiet) :
    Mirrors (app.applyAll (effects.filterMap Effect.action?)) before := by
  induction effects generalizing app with
  | nil => exact h
  | cons effect rest ih =>
      have quietRest := fun other mem => quiet other (List.mem_cons_of_mem effect mem)
      have isQuiet := quiet effect List.mem_cons_self
      cases effect with
      | published action =>
          cases action with
          | walletChanged uid change =>
              refine ih ?_ quietRest
              exact ⟨(app.currencies_apply_walletChanged uid change).trans h.currencies,
                fun other => (app.currency?_apply_walletChanged other uid change).trans
                  (h.wallets other)⟩
          | currenciesUpdated | walletAdded | walletRemoved | reset => exact isQuiet.elim
      | called | commanded | wrote | logged => exact ih h quietRest

/-- Whatever a turn comes out as, the actions that it publishes make of the state
what the turn made of the registry. -/
theorem of_outcome {config : Config} (sound : before.Sound config) (h : Mirrors app before)
    {host : Host W} {input : Input} {effects : List Effect}
    (outcome : Outcome host before input after effects) :
    Mirrors (app.applyAll (effects.filterMap Effect.action?)) after := by
  cases outcome with
  | quiet alike quiet => exact (h.of_quiet quiet).of_alike alike
  | asked _ made =>
      rcases made with rfl | ⟨session, rfl⟩
      · exact h
      · exact ⟨h.currencies, h.wallets⟩
  | connected _ _ quiet quiet' =>
      rw [List.filterMap_append, List.filterMap_append, applyAll_append, applyAll_append]
      have kept := (h.of_quiet quiet).of_quiet quiet'
      exact ⟨kept.currencies, kept.wallets⟩
  | disconnected _ quiet =>
      rw [List.filterMap_append, applyAll_append]
      exact ⟨(h.of_quiet quiet).currencies, (h.of_quiet quiet).wallets⟩
  | ended _ _ =>
      rw [List.filterMap_append, applyAll_append]
      exact fresh before.config
  | network _ _ _ alike only =>
      have noActions := List.filterMap_eq_nil_iff.2 fun effect mem =>
        (only effect mem).action?_eq_none
      rw [List.filterMap_append, List.filterMap_append, noActions]
      exact ⟨rfl, fun uid => (h.wallets uid).trans (currency_wallets_of_alike alike uid).symm⟩
  | manager _ _ quiet =>
      exact ⟨(h.of_quiet quiet).currencies, (h.of_quiet quiet).wallets⟩
  | @wallet manager wallet currency balance transfers _ _ known =>
      refine ⟨h.currencies, fun uid => ?_⟩
      -- The state takes the id from the currency, the registry from the wallet.
      have sameUid := sound.keyed _ _ known
      simp only [List.filterMap_cons, Effect.action?, List.filterMap_nil, applyAll_cons,
        applyAll_nil, apply, currency?, Registry.withWallet, Std.ExtTreeMap.getElem?_insert,
        sameUid]
      split
      · rfl
      · exact h.wallets uid
  | @removal manager wallet _ _ =>
      refine ⟨h.currencies, fun uid => ?_⟩
      simp only [List.filterMap_cons, Effect.action?, List.filterMap_nil, applyAll_cons,
        applyAll_nil, apply, currency?, Std.ExtTreeMap.getElem?_erase]
      split
      · rfl
      · exact h.wallets uid

end Mirrors

end AppState

/-! ### The registered currencies in their order -/

/-- The registered currencies are listed each once, by strictly ascending ids. -/
theorem Registry.Sound.ascending_currencyList {config : Config} {registry : Registry}
    (h : registry.Sound config) :
    registry.currencyList.Pairwise fun earlier later => compare earlier.uid later.uid = .lt := by
  have ordered : registry.currencies.toList.Pairwise fun earlier later =>
      compare earlier.1 later.1 = .lt := Std.ExtTreeMap.ordered_keys_toList
  rw [currencyList, List.pairwise_map]
  refine ordered.imp_of_mem fun {earlier later} mem mem' less => ?_
  rw [Std.ExtTreeMap.mem_toList_iff_getElem?_eq_some] at mem mem'
  rw [h.keyed _ _ mem, h.keyed _ _ mem']
  exact less

theorem Registry.Sound.mem_currencyList {config : Config} {registry : Registry}
    (h : registry.Sound config) (currency : Currency) :
    currency ∈ registry.currencyList ↔ registry.currencies[currency.uid]? = some currency := by
  rw [currencyList, List.mem_map]
  constructor
  · rintro ⟨⟨uid, other⟩, mem, rfl⟩
    rw [Std.ExtTreeMap.mem_toList_iff_getElem?_eq_some] at mem
    rw [h.keyed uid other mem]
    exact mem
  · intro found
    exact ⟨(currency.uid, currency), Std.ExtTreeMap.mem_toList_iff_getElem?_eq_some.2 found, rfl⟩

/-! ### Runs -/

/-- A scene whose registry is mirrored by what was published so far. -/
def Scene.Mirrored (scene : Scene W) : Prop :=
  (AppState.empty.applyAll scene.outside.actions).Mirrors scene.registry

theorem Scene.Mirrored.after {config : Config} {scene : Scene W} (sound : scene.Sound config)
    (h : scene.Mirrored) (host : Host W) (happening : Happening W) :
    (scene.after host happening).Mirrored := by
  cases happening with
  | given input =>
      obtain ⟨effects, added, outcome⟩ := sound.after_given host input
      rw [Mirrored, added.actions, AppState.applyAll_append]
      exact AppState.Mirrors.of_outcome sound.registry h outcome
  | meanwhile world receipts => exact h

/-- After any run, the state built from the published actions has a wallet for
exactly the wallets of the registry, each with the currency of its controller, and
lists the registered currencies by strictly ascending ids. -/
theorem app_mirrors_registry (host : Host W) (config : Config) (world : W)
    (happenings : List (Happening W)) :
    let scene := (Scene.first config world).run host happenings
    let app := AppState.empty.applyAll scene.outside.actions
    (∀ uid : CurrencyId, uid ∈ app.wallets ↔ uid ∈ scene.registry.wallets) ∧
      (∀ uid : CurrencyId, app.wallets[uid]?.map WalletState.currency =
        scene.registry.wallets[uid]?.map WalletController.currency) ∧
      app.currencies = scene.registry.currencyList ∧
      (∀ currency, currency ∈ app.currencies ↔
        scene.registry.currencies[currency.uid]? = some currency) ∧
      app.currencies.Pairwise fun earlier later => compare earlier.uid later.uid = .lt := by
  intro scene app
  -- That the wallets are mirrored rests on the keys of the tables, kept along with it.
  have kept : scene.Sound config ∧ scene.Mirrored :=
    Scene.run_keeps (P := fun scene => scene.Sound config ∧ scene.Mirrored)
      (fun _ happening h => ⟨h.1.after host happening, h.2.after h.1 host happening⟩)
      ⟨.first config world, .fresh config⟩ happenings
  obtain ⟨sound, mirrors⟩ := kept
  have list : app.currencies = scene.registry.currencyList := mirrors.currencies
  refine ⟨fun uid => ?_, mirrors.wallets, list, ?_, ?_⟩
  · have same := congrArg Option.isSome (mirrors.wallets uid)
    rw [AppState.currency?, Option.isSome_map, Option.isSome_map] at same
    rw [← Std.ExtTreeMap.isSome_getElem?_iff_mem, ← Std.ExtTreeMap.isSome_getElem?_iff_mem]
    exact Bool.eq_iff_iff.1 same
  · rw [list]
    exact sound.registry.mem_currencyList
  · rw [list]
    exact sound.registry.ascending_currencyList

end MultiWallet
