import MultiWallet.Proofs.Registering

/-!
How wallets are bound to managers, and managers to networks. The registry is in
order if every wallet has the manager of its currency's network, which is
registered, and every registered manager is one of a network that was accepted in
the session. What events name is not compared with that, so that the registry is
in order for as long as the engine reports managers and wallets in time, and no
longer.
-/

namespace MultiWallet

open Outside

variable {W : Type}

/-! ### Accepted networks -/

/-- The networks that were accepted in the last session, after one more call. A
network is accepted when its currencies are registered and the engine is asked for
its manager. -/
def EngineCall.accept (networks : List String) : EngineCall → List String
  | createSession _ _ _ => []
  | createManager network _ _ => networks ++ [network.id]
  | start _ => networks
  | stop => networks

/-- The networks that were accepted in the last session. -/
def Outside.accepted (outside : Outside W) : List String :=
  outside.calls.foldl EngineCall.accept []

theorem Outside.Adds.accepted {before after : Outside W} {effects : List Effect}
    (h : Adds before after effects) :
    after.accepted = (effects.filterMap Effect.call?).foldl EngineCall.accept before.accepted := by
  rw [Outside.accepted, h.calls, List.foldl_append]
  rfl

/-! ### Order -/

namespace Registry

/-- The registered currencies are of accepted networks. -/
def Rooted (registry : Registry) (accepted : List String) : Prop :=
  ∀ (uid : CurrencyId) (currency : Currency), registry.currencies[uid]? = some currency →
    currency.networkId ∈ accepted

/-- Every wallet has its manager, and every manager its network. -/
structure InOrder (registry : Registry) (accepted : List String) : Prop where
  /-- The manager of a wallet is on the network that its currency was registered
  for, and there is a registered manager of that network. -/
  wallets : ∀ (uid : CurrencyId) (controller : WalletController),
    registry.wallets[uid]? = some controller →
      ∃ currency, registry.currencies[uid]? = some currency ∧
        controller.manager.network.id = currency.networkId ∧
        currency.networkId ∈ registry.managers
  managers : ∀ network : String, network ∈ registry.managers → network ∈ accepted

/-- Managers come in time if their network was accepted before, and wallets if
they come from a manager of their network, after one was registered. Events that
register nothing do not matter. -/
def Timely (registry : Registry) (accepted : List String) : Input → Prop
  | .event (.system (.managerAdded manager)) =>
    registry.lifecycle ≠ .uninitialized → manager.network.id ∉ registry.managers →
      manager.network.id ∈ accepted
  | .event (.manager manager (.walletAdded wallet)) =>
    registry.lifecycle ≠ .uninitialized → wallet.currency.uid ∉ registry.wallets →
      ∀ currency, registry.currencies[wallet.currency.uid]? = some currency →
        manager.network.id = currency.networkId ∧ currency.networkId ∈ registry.managers
  | _ => True

section Outcomes

variable {config : Config} {host : Host W} {before after : Registry} {accepted : List String}
  {input : Input} {effects : List Effect}

theorem Rooted.of_outcome (sound : before.Sound config) (h : before.Rooted accepted)
    (outcome : Outcome host before input after effects) :
    after.Rooted ((effects.filterMap Effect.call?).foldl EngineCall.accept accepted) := by
  cases outcome with
  | quiet alike quiet =>
      rw [Effect.filterMap_call?_of_quiet quiet, Rooted, alike.currencies]
      exact h
  | asked closed made =>
      intro uid currency found
      have vacant := (sound.vacant closed).1
      rcases made with rfl | ⟨session, rfl⟩ <;> simp [vacant] at found
  | connected _ _ quiet quiet' =>
      rw [Effect.filterMap_call?_between quiet quiet']
      exact h
  | disconnected _ quiet =>
      rw [Effect.filterMap_call?_concat quiet]
      exact h
  | manager _ _ quiet =>
      rw [Effect.filterMap_call?_of_quiet quiet]
      exact h
  | ended _ _ =>
      intro uid currency found
      simp [Registry.fresh] at found
  | @network network made _ _ _ _ _ enlisted alike only =>
      rw [Effect.filterMap_call?_of_writes only, Rooted, alike.currencies]
      intro uid currency found
      obtain ⟨rest, rfl, -, networks, -⟩ := enlist_ok enlisted
      rcases mem_or_of_register found with ⟨mem, -⟩ | found
      · exact List.mem_append_right _ (List.mem_singleton.2 (networks currency mem))
      · exact List.mem_append_left _ (h uid currency found)
  | wallet _ _ _ => exact h
  | removal _ _ => exact h

/-- Whatever a turn comes out as, the registry is in order afterwards if it was
before and the input came in time. -/
theorem InOrder.of_outcome (sound : before.Sound config) (h : before.InOrder accepted)
    (timely : before.Timely accepted input) (outcome : Outcome host before input after effects) :
    after.InOrder ((effects.filterMap Effect.call?).foldl EngineCall.accept accepted) := by
  cases outcome with
  | quiet alike quiet =>
      rw [Effect.filterMap_call?_of_quiet quiet]
      refine ⟨fun uid controller found => ?_, by rw [alike.managers]; exact h.managers⟩
      obtain ⟨old, was, same⟩ := alike.exists_wallet found
      obtain ⟨currency, known, bound, placed⟩ := h.wallets uid old was
      rw [alike.currencies, alike.managers]
      exact ⟨currency, known, by rw [← WalletController.manager_eq_of_bare same, bound], placed⟩
  | asked closed made =>
      obtain ⟨-, managers, wallets⟩ := sound.vacant closed
      rcases made with rfl | ⟨session, rfl⟩ <;> constructor <;> simp [managers, wallets]
  | connected _ _ quiet quiet' =>
      rw [Effect.filterMap_call?_between quiet quiet']
      exact ⟨h.wallets, h.managers⟩
  | disconnected _ quiet =>
      rw [Effect.filterMap_call?_concat quiet]
      exact ⟨h.wallets, h.managers⟩
  | ended _ _ => constructor <;> simp [Registry.fresh]
  | @network network made _ _ _ _ _ enlisted alike only =>
      rw [Effect.filterMap_call?_of_writes only]
      constructor
      · intro uid controller found
        obtain ⟨old, was, same⟩ := alike.exists_wallet found
        obtain ⟨currency, known, bound, placed⟩ := h.wallets uid old was
        rw [alike.currencies, alike.managers, ← WalletController.manager_eq_of_bare same]
        -- No currency of a network that was registered before comes to be another's.
        exact ⟨currency, getElem?_register_of_enlist enlisted known, bound, placed⟩
      · intro id mem
        rw [alike.managers] at mem
        exact List.mem_append_left _ (h.managers id mem)
  | @manager manager _ opened absent quiet =>
      rw [Effect.filterMap_call?_of_quiet quiet]
      constructor
      · intro uid controller found
        obtain ⟨currency, known, bound, placed⟩ := h.wallets uid controller found
        exact ⟨currency, known, bound, Std.ExtTreeMap.mem_insert.2 (.inr placed)⟩
      · intro id mem
        rcases Std.ExtTreeMap.mem_insert.1 mem with same | mem
        · rw [← Std.LawfulEqOrd.eq_of_compare same]
          exact timely opened absent
        · exact h.managers id mem
  | @wallet manager wallet currency _ _ opened absent known =>
      refine ⟨fun uid controller found => ?_, h.managers⟩
      rw [withWallet, Std.ExtTreeMap.getElem?_insert] at found
      split at found
      · rename_i same
        cases found
        rw [← Std.LawfulEqOrd.eq_of_compare same]
        exact ⟨currency, known, timely opened absent currency known⟩
      · exact h.wallets uid controller found
  | removal _ _ =>
      refine ⟨fun uid controller found => ?_, h.managers⟩
      rw [Std.ExtTreeMap.getElem?_erase] at found
      split at found
      · cases found
      · exact h.wallets uid controller found

end Outcomes

end Registry

/-! ### Runs -/

namespace Scene

variable {scene : Scene W}

/-- The registry is in order, with regard to the networks accepted so far. -/
def InOrder (scene : Scene W) : Prop := scene.registry.InOrder scene.outside.accepted

/-- Something given comes in time. -/
def Timely (scene : Scene W) : Happening W → Prop
  | .given input => scene.registry.Timely scene.outside.accepted input
  | .meanwhile _ _ => True

theorem rooted_after {config : Config} (sound : scene.Sound config)
    (h : scene.registry.Rooted scene.outside.accepted) (host : Host W)
    (happening : Happening W) :
    (scene.after host happening).registry.Rooted (scene.after host happening).outside.accepted := by
  cases happening with
  | given input =>
      obtain ⟨effects, added, outcome⟩ := sound.after_given host input
      rw [added.accepted]
      exact h.of_outcome sound.registry outcome
  | meanwhile world receipts => exact h

/-- An event that registers something out of time leaves the registry out of
order. -/
theorem timely_of_inOrder_after {config : Config} (sound : scene.Sound config) (host : Host W)
    {happening : Happening W} (next : (scene.after host happening).InOrder) :
    scene.Timely happening := by
  cases happening with
  | meanwhile world receipts => trivial
  | given input =>
      match input with
      | .command _ | .notice _ => trivial
      | .event (.system .created) | .event (.system (.networkAdded _)) => trivial
      | .event (.wallet _ _ _) | .event (.transfer _ _ _ _) => trivial
      | .event (.system (.managerAdded manager)) =>
          intro opened absent
          have mem := next.managers manager.network.id (by
            rw [(managerAdded_of_not_mem host opened absent).1]
            exact Std.ExtTreeMap.mem_insert_self)
          obtain ⟨effects, added, quiet⟩ := sound.quietly_managerAdded host manager
          rwa [added.accepted, Effect.filterMap_call?_of_quiet quiet] at mem
      | .event (.manager manager event) =>
          cases event with
          | walletAdded wallet =>
              intro opened absent currency known
              have bound := next.wallets wallet.currency.uid (.fresh currency wallet manager)
              rw [(walletAdded_of_known host manager opened absent known).1] at bound
              obtain ⟨other, same, bound, placed⟩ := bound Std.ExtTreeMap.getElem?_insert_self
              rw [Registry.withWallet, known] at same
              obtain rfl := Option.some.inj same
              exact ⟨bound, placed⟩
          | created | changed | deleted | walletChanged | walletDeleted | syncStarted
          | syncProgress | syncEnded | blockUpdated => trivial

theorem inOrder_after_iff {config : Config} (sound : scene.Sound config) (h : scene.InOrder)
    (host : Host W) (happening : Happening W) :
    (scene.after host happening).InOrder ↔ scene.Timely happening := by
  refine ⟨timely_of_inOrder_after sound host, fun timely => ?_⟩
  cases happening with
  | given input =>
      obtain ⟨effects, added, outcome⟩ := sound.after_given host input
      rw [InOrder, added.accepted]
      exact Registry.InOrder.of_outcome sound.registry h timely outcome
  | meanwhile world receipts => exact h

end Scene

/-- After any run, the currency of every wallet is registered, and its network was
accepted in the session; but that the registry is in order all along is the case
exactly if all managers and wallets come in time. -/
theorem in_order_iff_all_timely (host : Host W) (config : Config) (world : W)
    (happenings : List (Happening W)) :
    let first := Scene.first config world
    (∀ (uid : CurrencyId) (controller : WalletController),
        (first.run host happenings).registry.wallets[uid]? = some controller →
          ∃ currency, (first.run host happenings).registry.currencies[uid]? = some currency ∧
            currency.networkId ∈ (first.run host happenings).outside.accepted) ∧
      ((∀ earlier later, happenings = earlier ++ later → (first.run host earlier).InOrder) ↔
        ∀ earlier happening later, happenings = earlier ++ happening :: later →
          (first.run host earlier).Timely happening) := by
  intro first
  have sound : first.Sound config := .first config world
  constructor
  · intro uid controller found
    have rooted := (Scene.run_keeps
      (P := fun scene => scene.Sound config ∧ scene.registry.Rooted scene.outside.accepted)
      (fun _ happening h => ⟨h.1.after host happening, Scene.rooted_after h.1 h.2 host happening⟩)
      ⟨sound, fun uid currency found => by simp [first, Scene.first, Registry.fresh] at found⟩
      happenings).2
    have known := (sound.run host happenings).registry.enrolled uid controller found
    exact ⟨_, known, rooted uid _ known⟩
  · have inOrder : first.InOrder := by
      constructor <;> simp [first, Scene.first, Registry.fresh]
    exact Scene.run_always_iff (I := Scene.Sound config) (P := Scene.InOrder) (Q := Scene.Timely)
      (fun _ happening h => h.after host happening)
      (fun _ happening sound h => Scene.inOrder_after_iff sound h host happening)
      sound inOrder happenings

/-- A wallet that is reported before its manager is registered all the same. -/
theorem wallet_registered_before_manager :
    let host := Host.granting .bitcoin fun _ => []
    let wallet : EngineWallet := ⟨0, ⟨Network.bitcoin.currency, "btc", "Bitcoin", .native⟩⟩
    let scene := (Scene.first .standard []).run host
      [.given (.command (.create "")), .given (.command .connect),
        .given (.event (.system (.networkAdded .bitcoin))),
        .given (.event (.manager ⟨0, .bitcoin⟩ (.walletAdded wallet)))]
    Network.bitcoin.currency ∈ scene.registry.wallets ∧ scene.registry.managers.isEmpty ∧
      ¬scene.InOrder := by
  intro host wallet scene
  have registered : Network.bitcoin.currency ∈ scene.registry.wallets := by decide +kernel
  have noManagers : scene.registry.managers.isEmpty := by decide +kernel
  refine ⟨registered, noManagers, fun inOrder => ?_⟩
  obtain ⟨controller, found⟩ := Table.mem_iff_exists.1 registered
  obtain ⟨currency, -, -, placed⟩ := inOrder.wallets _ controller found
  rw [Std.ExtTreeMap.isEmpty_iff.1 noManagers] at placed
  exact Std.ExtTreeMap.not_mem_empty placed

end MultiWallet
