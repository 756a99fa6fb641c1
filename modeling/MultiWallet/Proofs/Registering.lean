import MultiWallet.Proofs.Run
import MultiWallet.Registry.Queue

/-!
The events that register something or remove it: a discovered network, a manager,
and a wallet that comes or goes. For each it is said when handling it breaks an
invariant, and what it does otherwise. Without a session none of them does
anything.
-/

namespace MultiWallet

open Outside

variable {W : Type}

theorem Queue.fatal?_command {α : Type} (command : Command) (answer : Except RegistryError α) :
    fatal? (.command command) answer = none := rfl

theorem Queue.fatal?_map {α β : Type} (f : α → β) (input : Input)
    (answer : Except RegistryError α) : fatal? input (answer.map f) = fatal? input answer := by
  cases input <;> rcases answer with (_ | _ | _ | _ | _ | _ | _ | _ | _ | _) | _ <;> rfl

namespace Scene

variable {scene : Scene W}

/-- The violation that handling an event ends in, if it does. The queue stops
with it. -/
def broken? (host : Host W) (scene : Scene W) (event : EngineEvent) : Option Violation :=
  Queue.fatal? (.event event) (scene.turn host (.event event)).answer

theorem event_of_uninitialized (host : Host W)
    (closed : scene.registry.lifecycle = .uninitialized) (event : EngineEvent) :
    scene.after host (.given (.event event)) = scene ∧ scene.broken? host event = none := by
  rw [after, broken?, turn, Registry.handle, Registry.handleEvent, if_pos closed]
  exact ⟨rfl, rfl⟩

theorem event_of_dispatch {host : Host W} {event : EngineEvent}
    {answer : Except RegistryError Unit} {registry : Registry} {outside : Outside W}
    (initialized : scene.registry.lifecycle ≠ .uninitialized)
    (h : scene.registry.dispatch host event scene.outside = ⟨answer, registry, outside⟩) :
    scene.after host (.given (.event event)) = ⟨registry, outside⟩ ∧
      scene.broken? host event = Queue.fatal? (.event event) answer := by
  rw [after, broken?, turn, Registry.handle, Registry.handleEvent, if_neg initialized, h]
  exact ⟨rfl, Queue.fatal?_map _ _ answer⟩

theorem broken?_of_refuse {host : Host W} {event : EngineEvent} {broken : Violation}
    (initialized : scene.registry.lifecycle ≠ .uninitialized)
    (h : scene.registry.dispatch host event scene.outside =
      scene.registry.refuse scene.outside (.violation broken)) :
    scene.broken? host event = some broken :=
  (event_of_dispatch initialized h).2

/-! ### Networks -/

theorem networkAdded_of_error (host : Host W) {network : Network} {session : EngineSession}
    {broken : Violation} (initialized : scene.registry.lifecycle ≠ .uninitialized)
    (family : network.isMainnet = scene.registry.config.networkClass.isMainnet)
    (opened : scene.registry.session = some session)
    (refused : scene.registry.enlist network [] network.currencies = .error broken) :
    scene.broken? host (.system (.networkAdded network)) = some broken := by
  refine broken?_of_refuse initialized ?_
  rw [Registry.dispatch, Registry.handleSystem, Registry.addNetwork,
    if_neg (Classical.not_not.2 family), opened]
  simp only [refused]

/-- What the acceptance of a network does. -/
theorem networkAdded_of_enlist (host : Host W) {network : Network} {session : EngineSession}
    {made : List Currency} (heard : scene.outside.isHeard = true)
    (initialized : scene.registry.lifecycle ≠ .uninitialized)
    (family : network.isMainnet = scene.registry.config.networkClass.isMainnet)
    (opened : scene.registry.session = some session)
    (enlisted : scene.registry.enlist network [] network.currencies = .ok made) :
    ∃ mode writes,
      let next := scene.after host (.given (.event (.system (.networkAdded network))))
      Registry.Alike (scene.registry.register made) next.registry ∧
        (∀ effect ∈ writes, effect.IsWrite) ∧
        Adds scene.outside next.outside
          ([.published (.currenciesUpdated next.registry.currencyList)] ++ writes
            ++ [.called (.createManager network mode (made.map (·.uid)))]) ∧
        scene.broken? host (.system (.networkAdded network)) = none := by
  obtain ⟨answer, registry, outside, mode, writes, turn, alike, only, added⟩ :=
    Registry.addNetwork_of_enlist heard host family opened enlisted
  change scene.registry.dispatch host (.system (.networkAdded network)) scene.outside = _ at turn
  obtain ⟨next, broken⟩ := event_of_dispatch initialized turn
  refine ⟨mode, writes, ?_⟩
  rw [next]
  refine ⟨alike, only, added, broken.trans ?_⟩
  -- The engine may refuse, but that is no violation.
  cases answer <;> rfl

/-! ### Managers -/

theorem managerAdded_of_mem (host : Host W) {manager : EngineManager}
    (initialized : scene.registry.lifecycle ≠ .uninitialized)
    (mem : manager.network.id ∈ scene.registry.managers) :
    scene.broken? host (.system (.managerAdded manager)) =
      some (.duplicateManager manager.network.id) := by
  refine broken?_of_refuse initialized ?_
  rw [Registry.dispatch, Registry.handleSystem, Registry.addManager]
  simp only [Std.ExtTreeMap.contains_iff_mem, mem, if_true]

theorem managerAdded_of_not_mem (host : Host W) {manager : EngineManager}
    (initialized : scene.registry.lifecycle ≠ .uninitialized)
    (absent : manager.network.id ∉ scene.registry.managers) :
    (scene.after host (.given (.event (.system (.managerAdded manager))))).registry =
        { scene.registry with
          managers := scene.registry.managers.insert manager.network.id manager } ∧
      scene.broken? host (.system (.managerAdded manager)) = none := by
  obtain ⟨outside, turn⟩ : ∃ outside,
      scene.registry.dispatch host (.system (.managerAdded manager)) scene.outside =
        ⟨.ok (), { scene.registry with
          managers := scene.registry.managers.insert manager.network.id manager }, outside⟩ := by
    rw [Registry.dispatch, Registry.handleSystem, Registry.addManager]
    simp only [Std.ExtTreeMap.contains_iff_mem, absent, if_false]
    exact ⟨_, rfl⟩
  obtain ⟨next, broken⟩ := event_of_dispatch initialized turn
  exact ⟨congrArg registry next, broken⟩

/-- A manager is registered without a call of the engine. -/
theorem Sound.quietly_managerAdded {config : Config} (sound : scene.Sound config)
    (host : Host W) (manager : EngineManager) :
    Quietly scene.outside
      (scene.after host (.given (.event (.system (.managerAdded manager))))).outside := by
  obtain ⟨effects, added, outcome⟩ :=
    sound.after_given host (.event (.system (.managerAdded manager)))
  refine ⟨effects, added, ?_⟩
  generalize (scene.after host _).registry = registry at outcome
  cases outcome <;> assumption

/-! ### Wallets -/

theorem walletAdded_of_mem (host : Host W) (manager : EngineManager) {wallet : EngineWallet}
    (initialized : scene.registry.lifecycle ≠ .uninitialized)
    (mem : wallet.currency.uid ∈ scene.registry.wallets) :
    scene.broken? host (.manager manager (.walletAdded wallet)) =
      some (.duplicateController wallet.currency.uid) := by
  refine broken?_of_refuse initialized ?_
  rw [Registry.dispatch, Registry.handleManager, Registry.addWallet]
  simp only [Std.ExtTreeMap.contains_iff_mem, mem, if_true]

theorem walletAdded_of_unknown (host : Host W) (manager : EngineManager) {wallet : EngineWallet}
    (initialized : scene.registry.lifecycle ≠ .uninitialized)
    (absent : wallet.currency.uid ∉ scene.registry.wallets)
    (unknown : scene.registry.currencies[wallet.currency.uid]? = none) :
    scene.broken? host (.manager manager (.walletAdded wallet)) =
      some (.unknownCurrency wallet.currency.uid) := by
  refine broken?_of_refuse initialized ?_
  rw [Registry.dispatch, Registry.handleManager, Registry.addWallet]
  simp only [Std.ExtTreeMap.contains_iff_mem, absent, if_false, unknown]

theorem walletAdded_of_known (host : Host W) (manager : EngineManager) {wallet : EngineWallet}
    {currency : Currency} (initialized : scene.registry.lifecycle ≠ .uninitialized)
    (absent : wallet.currency.uid ∉ scene.registry.wallets)
    (known : scene.registry.currencies[wallet.currency.uid]? = some currency) :
    (scene.after host (.given (.event (.manager manager (.walletAdded wallet))))).registry =
        scene.registry.withWallet wallet.currency.uid (.fresh currency wallet manager) ∧
      scene.broken? host (.manager manager (.walletAdded wallet)) = none := by
  obtain ⟨outside, turn⟩ : ∃ outside,
      scene.registry.dispatch host (.manager manager (.walletAdded wallet)) scene.outside =
        ⟨.ok (), scene.registry.withWallet wallet.currency.uid (.fresh currency wallet manager),
          outside⟩ := by
    rw [Registry.dispatch, Registry.handleManager, Registry.addWallet]
    simp only [Std.ExtTreeMap.contains_iff_mem, absent, if_false, known]
    exact ⟨_, rfl⟩
  obtain ⟨next, broken⟩ := event_of_dispatch initialized turn
  exact ⟨congrArg registry next, broken⟩

theorem walletDeleted_of_not_mem (host : Host W) (manager : EngineManager)
    {wallet : EngineWallet} (initialized : scene.registry.lifecycle ≠ .uninitialized)
    (absent : scene.registry.wallets[wallet.currency.uid]? = none) :
    scene.broken? host (.manager manager (.walletDeleted wallet)) =
      some (.missingController wallet.currency.uid) := by
  refine broken?_of_refuse initialized ?_
  rw [Registry.dispatch, Registry.handleManager, Registry.removeWallet]
  simp only [absent]

theorem walletDeleted_of_some (host : Host W) (manager : EngineManager)
    {wallet : EngineWallet} {controller : WalletController}
    (initialized : scene.registry.lifecycle ≠ .uninitialized)
    (found : scene.registry.wallets[wallet.currency.uid]? = some controller) :
    (scene.after host (.given (.event (.manager manager (.walletDeleted wallet))))).registry =
      { scene.registry with wallets := scene.registry.wallets.erase wallet.currency.uid } := by
  obtain ⟨outside, turn⟩ : ∃ outside,
      scene.registry.dispatch host (.manager manager (.walletDeleted wallet)) scene.outside =
        ⟨.ok (), { scene.registry with
          wallets := scene.registry.wallets.erase wallet.currency.uid }, outside⟩ := by
    rw [Registry.dispatch, Registry.handleManager, Registry.removeWallet]
    simp only [found]
    exact ⟨_, rfl⟩
  exact congrArg registry (event_of_dispatch initialized turn).1

end Scene

end MultiWallet
