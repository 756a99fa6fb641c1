import MultiWallet.Proofs.Choosing
import MultiWallet.Proofs.Modes
import MultiWallet.Proofs.Refusing

/-!
The mode in which a manager is asked for. The settings give the mode that is stored for
the network, if it can be used, and choose and store the standard one if not; the
registry asks for what they give, unless the engine does not support it. Together they
come to a choice out of three, whether or not anything can be written.
-/

namespace MultiWallet

open Outside

variable {W : Type}

/-! ### Attempts to write -/

/-- The attempt to write to the store, if it is one. -/
def Effect.write? : Effect → Option (String × Bytes × Nat)
  | wrote key value version => some (key, value, version)
  | _ => none

/-- The attempts to write to the store. -/
def Outside.writes (outside : Outside W) : List (String × Bytes × Nat) :=
  outside.journal.filterMap Effect.write?

theorem Outside.Adds.writes {before after : Outside W} {effects : List Effect}
    (h : Adds before after effects) :
    after.writes = before.writes ++ effects.filterMap Effect.write? := by
  simp [Outside.writes, h.journal]

namespace ConnectionSettings

variable {host : Host W}

/-- The attempt by which settings are saved. -/
def write (settings : ConnectionSettings) : String × Bytes × Nat :=
  (Persisted.key WalletInfo, Persisted.encode settings.info.value, settings.version)

/-- Saving is a single attempt. -/
theorem writes_save (settings : ConnectionSettings) (outside : Outside W) :
    (settings.save (store host) outside).2.2.writes = outside.writes ++ [settings.write] := by
  have noted : ((store host).set (Persisted.key WalletInfo)
      (Persisted.encode settings.info.value) settings.version outside).2.writes =
        outside.writes ++ [settings.write] :=
    (outside.adds_note _).writes
  rw [save, Store.save]
  rcases written : (store host).set (Persisted.key WalletInfo)
    (Persisted.encode settings.info.value) settings.version outside with ⟨fault | raw, after⟩
  · rw [written] at noted
    exact noted
  · rw [written] at noted
    dsimp only
    cases raw.decoded (α := WalletInfo) <;> exact noted

/-! ### The mode that the settings give -/

variable (settings : ConnectionSettings) (uid : CurrencyId) (supported : ManagerMode → Bool)

theorem modeFor_fst (outside : Outside W) :
    (settings.modeFor (store host) uid supported outside).1 =
      (settings.usable? uid supported).getD (.standardFor uid) := by
  cases usable : settings.usable? uid supported with
  | some mode => rw [modeFor_of_some usable, Option.getD_some]
  | none => rw [modeFor_of_none usable, Option.getD_none]

/-- Something is written exactly if nothing is stored that can be used. -/
theorem writes_modeFor (outside : Outside W) :
    (settings.modeFor (store host) uid supported outside).2.2.writes = outside.writes ++
      if (settings.usable? uid supported).isSome then []
      else [(settings.note uid (.standardFor uid)).write] := by
  cases usable : settings.usable? uid supported with
  | some mode =>
      rw [modeFor_of_some usable]
      exact (List.append_nil _).symm
  | none =>
      rw [modeFor_of_none usable, choose, note_sanitize]
      exact writes_save _ outside

/-- From then on, the mode that was given is stored; the standard one can be used only if it
is supported. -/
theorem usable?_modeFor (echoes : host.store.Echoes) (outside : Outside W) :
    (settings.modeFor (store host) uid supported outside).2.1.usable? uid supported =
      (settings.usable? uid supported).or
        (if supported (.standardFor uid) then some (.standardFor uid) else none) := by
  cases usable : settings.usable? uid supported with
  | some mode => rw [modeFor_of_some usable, usable, Option.some_or]
  | none =>
      rw [modeFor_of_none usable, usable?, mode?_choose echoes.outside, Option.filter_some,
        Option.none_or]

end ConnectionSettings

namespace Registry

variable {host : Host W} {session : EngineSession} {network : Network} {registry : Registry}
  {settings : ConnectionSettings} {supported : ManagerMode → Bool} {best : ManagerMode}

/-! ### The mode that is asked for -/

/-- The mode to ask for is the stored one, or else the standard one, or else the one that the
engine thinks best. -/
theorem modeForNetwork_of_loaded (loaded : registry.settings = some settings)
    (supports : ∀ world, host.supports session network world = supported)
    (prefers : ∀ world, host.defaultMode session network world = best) (outside : Outside W) :
    registry.modeForNetwork host session network outside =
      ((settings.usable? network.currency supported).getD
          (if supported (.standardFor network.currency) then .standardFor network.currency
            else best),
        { registry with
          settings :=
            some (settings.modeFor (store host) network.currency supported outside).2.1 },
        (settings.modeFor (store host) network.currency supported outside).2.2) := by
  rw [modeForNetwork, loaded]
  simp only [supports, prefers, settings.modeFor_fst]
  cases usable : settings.usable? network.currency supported with
  | some stored =>
      have isSupported := (Option.filter_eq_some_iff.1 usable).2
      simp only [Option.getD_some, isSupported, if_true]
  | none =>
      simp only [Option.getD_none]
      split <;> rfl

/-- A network of the configured family without a flaw is registered, and its manager is asked
for in the mode that is chosen. -/
theorem addNetwork_of_not_hasFlaw (host : Host W) (opened : registry.session = some session)
    (family : network.isMainnet = registry.config.networkClass.isMainnet)
    (unflawed : ¬registry.HasFlaw network) (outside : Outside W) :
    ∃ made, made.map (·.uid) = network.currencies.map (·.uid) ∧
      let chosen := (registry.register made).modeForNetwork host session network
        (outside.publish (.currenciesUpdated (registry.register made).currencyList))
      (registry.addNetwork host network outside).registry = chosen.2.1 ∧
        (registry.addNetwork host network outside).outside =
          (chosen.2.2.createManager host session network chosen.1
            (network.currencies.map (·.uid))).2 := by
  cases enlisted : registry.enlist network [] network.currencies with
  | error broken => exact absurd (enlist_error_iff_hasFlaw.1 ⟨broken, enlisted⟩) unflawed
  | ok made =>
      obtain ⟨_, rfl, uids, -⟩ := enlist_ok enlisted
      refine ⟨_, uids, ?_⟩
      rw [addNetwork, if_neg (not_not_intro family), opened, ← uids]
      dsimp only
      rw [enlisted]
      exact ⟨rfl, rfl⟩

end Registry

/-- After any run, while there are settings and a session, the manager of a network that is
accepted is asked for once, for the currencies of the network in their order. It is asked for
in the mode that is stored for the network's own currency, if the engine supports that; or else
in the standard one, which is to go peer to peer for the chains at the base of bitcoin and by
the API for all others, if the engine supports that; or else in the mode that the engine thinks
best. A write is attempted exactly if no mode is stored that can be used, and asking again
attempts none exactly if one was, or the standard one is supported. None of this depends on
whether anything can be written. -/
theorem manager_requested_once (host : Host W) (config : Config) (world : W)
    (happenings : List (Happening W)) (network : Network) (session : EngineSession)
    (settings : ConnectionSettings) (supported : ManagerMode → Bool) (best : ManagerMode)
    (echoes : host.store.Echoes)
    (supports : ∀ world, host.supports session network world = supported)
    (prefers : ∀ world, host.defaultMode session network world = best) :
    let scene := (Scene.first config world).run host happenings
    let turn := scene.turn host (.event (.system (.networkAdded network)))
    let stored := ((settings.info.value.modes[network.currency]?).bind
      ManagerMode.ofNumber?).filter supported
    let standard : ManagerMode :=
      if Text.before '-' network.currency.networkId = "bitcoin" ∨
          Text.before '-' network.currency.networkId = "bitcoincash" then .p2pOnly
      else .apiOnly
    let mode := stored.getD (if supported standard then standard else best)
    scene.registry.session = some session → scene.registry.settings = some settings →
    network.isMainnet = config.networkClass.isMainnet → ¬scene.registry.HasFlaw network →
      turn.outside.calls = scene.outside.calls ++
          [.createManager network mode (network.currencies.map (·.uid))] ∧
        (supported best = true → supported mode = true) ∧
        turn.outside.writes = scene.outside.writes ++
          (if stored.isSome then [] else [(settings.note network.currency standard).write]) ∧
        ∃ next, turn.registry.settings = some next ∧
          ∀ outside : Outside W,
            (next.modeFor (store host) network.currency supported outside).2.2.writes =
                outside.writes ↔
              stored.isSome = true ∨ supported standard = true := by
  intro scene turn stored standard mode opened loaded family unflawed
  have sound : scene.Sound config := (Scene.Sound.first config world).run host happenings
  have initialized : scene.registry.lifecycle ≠ .uninitialized := by
    rw [Ne, ← sound.registry.session, opened]
    nofun
  obtain ⟨made, uids, accepted, asked⟩ := Registry.addNetwork_of_not_hasFlaw host opened
    (sound.registry.config ▸ family) unflawed scene.outside
  let published := scene.outside.publish
    (.currenciesUpdated (scene.registry.register made).currencyList)
  let chosen := settings.modeFor (store host) network.currency supported published
  rw [Registry.modeForNetwork_of_loaded (show (scene.registry.register made).settings = _ from
    loaded) supports prefers] at accepted asked
  have after := Scene.after_networkAdded host network initialized
  have next : turn.registry.settings = some chosen.2.1 :=
    (congrArg (fun scene : Scene W => scene.registry.settings) after).trans
      (congrArg Registry.settings accepted)
  have outside : turn.outside = (chosen.2.2.createManager host session network mode
      (network.currencies.map (·.uid))).2 :=
    (congrArg Scene.outside after).trans asked
  have announced := adds_publish sound.heard
    (.currenciesUpdated (scene.registry.register made).currencyList)
  have requested := adds_createManager host chosen.2.2 session network mode
    (network.currencies.map (·.uid))
  refine ⟨?_, fun bestSupported => ?_, ?_, chosen.2.1, next, fun outside => ?_⟩
  · obtain ⟨writes, added, only⟩ :=
      settings.onlyWrites_modeFor host network.currency supported published
    rw [outside, ((announced.trans added).trans requested).calls,
      Effect.filterMap_call?_of_writes only]
  · change supported (stored.getD _) = true
    cases usable : stored with
    | some kept => exact (Option.filter_eq_some_iff.1 usable).2
    | none =>
        rw [Option.getD_none]
        split
        · assumption
        · exact bestSupported
  · rw [outside, requested.writes, settings.writes_modeFor, announced.writes]
    simp only [List.filterMap_cons, List.filterMap_nil, Effect.write?, List.append_nil]
    rfl
  · rw [chosen.2.1.writes_modeFor, settings.usable?_modeFor network.currency supported echoes]
    change outside.writes ++ (if (stored.or (if supported standard then some standard
      else none)).isSome then [] else _) = outside.writes ↔ _
    cases stored with
    | some kept => simp
    | none => cases supported standard <;> simp

/-- On a network at the base of bitcoin, for which nothing is stored, the manager is asked for
peer to peer, though the engine thinks best of the API, and a single write is attempted. -/
theorem bitcoin_manager_requested_once :
    let host := Host.obedient .bitcoin
    let device : Device := ⟨.empty, ∅⟩
    let opening : List (Happening Device) :=
      [.given (.command (.create "")), .given (.command .connect)]
    let scene := (Scene.first .standard device).run host opening
    let turn := scene.turn host (.event (.system (.networkAdded .bitcoin)))
    turn.outside.calls = scene.outside.calls ++
        [.createManager .bitcoin .p2pOnly [Network.bitcoin.currency]] ∧
      ∃ write, turn.outside.writes = scene.outside.writes ++ [write] := by
  intro host device opening scene turn
  have unflawed : ¬((Scene.first .standard device).run host opening).registry.HasFlaw .bitcoin := by
    intro flawed
    obtain ⟨broken, failed⟩ := Registry.enlist_error_iff_hasFlaw.2 flawed
    have made : (((Scene.first .standard device).run host opening).registry.enlist .bitcoin []
        Network.bitcoin.currencies).toOption.isSome = true := by
      decide +kernel
    rw [failed] at made
    cases made
  obtain ⟨opened, unstored⟩ :
      ((Scene.first .standard device).run host opening).registry.session = some ⟨0⟩ ∧
      ((Scene.first .standard device).run host opening).registry.settings.map
        (·.number? Network.bitcoin.currency) = some none := by
    decide +kernel
  obtain ⟨settings, loaded, none⟩ := Option.map_eq_some_iff.1 unstored
  obtain ⟨asked, -, wrote, -⟩ := manager_requested_once host .standard device opening .bitcoin ⟨0⟩
    settings (fun _ => true) .apiOnly (Host.obedient_switches .bitcoin).echoes (fun _ => rfl)
    (fun _ => rfl) opened loaded rfl unflawed
  change settings.info.value.modes[Network.bitcoin.currency]? = _ at none
  rw [none] at asked wrote
  exact ⟨asked, _, wrote⟩

end MultiWallet
