import MultiWallet.Proofs.Registering
import MultiWallet.Proofs.Switching
import MultiWallet.Replica.Memory

/-!
Whether managers run in the modes that are stored for their networks. A mode is chosen
and stored when a network is discovered, and its manager is asked for in that mode;
all that is chosen or adopted later is brought to the managers that are registered
then. A manager that is still on its way is not told, and nobody looks again when it
comes.
-/

namespace MultiWallet

open Outside

variable {W : Type}

/-! ### Requests for managers -/

/-- The managers that were asked for in the last session, after one more call. -/
def EngineCall.request (requests : List (Network × ManagerMode)) :
    EngineCall → List (Network × ManagerMode)
  | createSession _ _ _ => []
  | createManager network mode _ => requests ++ [(network, mode)]
  | start _ => requests
  | stop => requests

/-- The networks whose managers were asked for in the last session, with the modes. -/
def Outside.requests (outside : Outside W) : List (Network × ManagerMode) :=
  outside.calls.foldl EngineCall.request []

namespace Registry

/-! ### Stored modes -/

/-- The mode that is stored for a network, if the engine supports it. -/
def storedMode? (host : Host W) (registry : Registry) (world : W) (network : Network) :
    Option ManagerMode :=
  registry.settings.bind fun settings => registry.session.bind fun session =>
    settings.usable? network.currency (host.supports session network world)

/-- Every manager runs in the mode that is stored for its network. -/
def InStoredModes (host : Host W) (registry : Registry) (world : W) : Prop :=
  ∀ (id : String) (manager : EngineManager), registry.managers[id]? = some manager →
    ∀ mode, registry.storedMode? host world manager.network = some mode →
      host.modeOf manager world = mode

theorem storedMode?_eq_some_iff {host : Host W} {registry : Registry} {world : W}
    {network : Network} {mode : ManagerMode} :
    registry.storedMode? host world network = some mode ↔
      ∃ settings session, registry.settings = some settings ∧ registry.session = some session ∧
        settings.usable? network.currency (host.supports session network world) = some mode := by
  simp [storedMode?, Option.bind_eq_some_iff]

/-- A network's own currency is registered for it. -/
def Knows (registry : Registry) (network : Network) : Prop :=
  ∃ currency, registry.currencies[network.currency]? = some currency ∧
    currency.networkId = network.id

/-- A network that lists its own currency is registered only once. -/
theorem own_not_mem {registry : Registry} {network : Network} {made : List Currency}
    (own : network.lists network.currency = true)
    (enlisted : registry.enlist network [] network.currencies = .ok made) :
    network.currency ∉ registry.currencies := by
  obtain ⟨_, -, -, -, fresh⟩ := enlist_ok enlisted
  obtain ⟨core, mem, same⟩ := List.any_eq_true.1 own
  exact beq_iff_eq.1 same ▸ fresh core mem

theorem knows_register {registry : Registry} {network : Network} {made : List Currency}
    (own : network.lists network.currency = true)
    (enlisted : registry.enlist network [] network.currencies = .ok made) :
    (registry.register made).Knows network := by
  have unknown := own_not_mem own enlisted
  obtain ⟨_, rfl, uids, placed, -⟩ := enlist_ok enlisted
  obtain ⟨core, mem, same⟩ := List.any_eq_true.1 own
  have listed : network.currency ∈ network.currencies.map (·.uid) :=
    List.mem_map.2 ⟨core, mem, beq_iff_eq.1 same⟩
  obtain ⟨currency, found⟩ := Table.mem_iff_exists.1 (mem_register.2 (.inl (uids ▸ listed)))
  refine ⟨currency, found, ?_⟩
  rcases mem_or_of_register found with ⟨mem, -⟩ | before
  · exact placed currency mem
  · exact absurd (Table.mem_iff_exists.2 ⟨currency, before⟩) unknown

/-- Without a catalog no such network is registered. -/
theorem catalog_ne_empty {registry : Registry} {network : Network} {made : List Currency}
    (own : network.lists network.currency = true)
    (enlisted : registry.enlist network [] network.currencies = .ok made) :
    registry.catalog ≠ .empty := by
  intro empty
  have missing (uid : CurrencyId) : registry.catalog.get? uid = none := by
    simp [empty, Catalog.get?, Catalog.empty]
  obtain ⟨core, mem, -⟩ := List.any_eq_true.1 own
  cases listed : network.currencies with
  | nil =>
      rw [listed] at mem
      cases mem
  | cons first rest =>
      rw [listed, enlist, missing] at enlisted
      cases enlisted

theorem Knows.id_eq {registry : Registry} {network other : Network} (h : registry.Knows network)
    (h' : registry.Knows other) (same : network.currency = other.currency) :
    network.id = other.id := by
  obtain ⟨currency, found, placed⟩ := h
  obtain ⟨currency', found', placed'⟩ := h'
  rw [same, found'] at found
  cases found
  exact placed.symm.trans placed'

section Keeping

variable {host : Host W} {isThere : W → EngineManager → Prop} {before after : Registry}
  {outside outside' : Outside W}

theorem InStoredModes.of_empty {world : W} (none : after.managers = ∅) :
    after.InStoredModes host world := by
  intro id manager found
  simp [none] at found

/-- If no manager changes its mode, it is enough that nothing else is stored for the
networks of managers. -/
theorem InStoredModes.of_kept (h : before.InStoredModes host outside.world)
    (there : ∀ (id : String) (manager : EngineManager), before.managers[id]? = some manager →
      isThere outside.world manager)
    (kept : KeepsModes host isThere outside outside') (managers : after.managers = before.managers)
    (stored : ∀ (id : String) (manager : EngineManager), before.managers[id]? = some manager →
      ∀ mode, after.storedMode? host outside'.world manager.network = some mode →
        before.storedMode? host outside.world manager.network = some mode) :
    after.InStoredModes host outside'.world := by
  intro id manager found mode isStored
  rw [managers] at found
  exact (kept manager (there id manager found)).2.trans
    (h id manager found mode (stored id manager found mode isStored))

/-- What is stored does not depend on the world. -/
theorem storedMode?_world (switches : host.Switches isThere) (world world' : W)
    (network : Network) :
    before.storedMode? host world network = before.storedMode? host world' network := by
  refine congrArg (Option.bind _) (funext fun settings => congrArg (Option.bind _) ?_)
  exact funext fun session => by rw [switches.supports session network world world']

theorem InStoredModes.of_same (h : before.InStoredModes host outside.world)
    (switches : host.Switches isThere)
    (there : ∀ (id : String) (manager : EngineManager), before.managers[id]? = some manager →
      isThere outside.world manager)
    (kept : KeepsModes host isThere outside outside') (managers : after.managers = before.managers)
    (settings : after.settings = before.settings) (session : after.session = before.session) :
    after.InStoredModes host outside'.world := by
  refine h.of_kept there kept managers fun _ manager _ mode isStored => ?_
  obtain ⟨given, opened, loaded, isOpened, usable⟩ := storedMode?_eq_some_iff.1 isStored
  refine storedMode?_eq_some_iff.2 ⟨given, opened, settings ▸ loaded, session ▸ isOpened, ?_⟩
  rw [switches.supports opened manager.network outside.world outside'.world]
  exact usable

/-- Only the number counts that is stored for a network. -/
theorem storedMode?_of_number? (switches : host.Switches isThere) {world world' : W}
    {network : Network} {mode : ManagerMode}
    (isStored : after.storedMode? host world' network = some mode)
    (session : after.session = before.session) {settings settings' : ConnectionSettings}
    (loaded : before.settings = some settings) (loaded' : after.settings = some settings')
    (same : settings'.number? network.currency = settings.number? network.currency) :
    before.storedMode? host world network = some mode := by
  obtain ⟨_, opened, known, isOpened, usable⟩ := storedMode?_eq_some_iff.1 isStored
  obtain rfl := Option.some.inj (loaded'.symm.trans known)
  refine storedMode?_eq_some_iff.2 ⟨settings, opened, loaded, session ▸ isOpened, ?_⟩
  rw [ConnectionSettings.usable?, ConnectionSettings.mode?, ← same,
    switches.supports opened network world world']
  exact usable

end Keeping

/-! ### Turns -/

theorem mem_managerList {registry : Registry} {manager : EngineManager} :
    manager ∈ registry.managerList ↔ ∃ id : String, registry.managers[id]? = some manager := by
  rw [managerList, List.mem_map]
  constructor
  · rintro ⟨⟨id, _⟩, mem, rfl⟩
    exact ⟨id, Std.ExtTreeMap.mem_toList_iff_getElem?_eq_some.1 mem⟩
  · rintro ⟨id, found⟩
    exact ⟨(id, manager), Std.ExtTreeMap.mem_toList_iff_getElem?_eq_some.2 found, rfl⟩

theorem pairwise_managerList {registry : Registry}
    (placed : ∀ (id : String) (manager : EngineManager), registry.managers[id]? = some manager →
      manager.network.id = id) :
    registry.managerList.Pairwise fun manager other => manager.network.id ≠ other.network.id := by
  rw [managerList, List.pairwise_map]
  refine Std.ExtTreeMap.distinct_keys_toList.imp_of_mem fun mem mem' apart same => apart ?_
  rw [placed _ _ (Std.ExtTreeMap.mem_toList_iff_getElem?_eq_some.1 mem),
    placed _ _ (Std.ExtTreeMap.mem_toList_iff_getElem?_eq_some.1 mem')] at same
  rw [same, Std.LawfulEqOrd.compare_eq_iff_eq]

/-- A manager is told to switch and the choice is noted, unless nothing happens or there
are no settings. -/
theorem setMode_cases (host : Host W) (network : String) (mode : ManagerMode)
    (registry : Registry) (outside : Outside W) :
    ((registry.setMode host network mode outside).registry = registry ∧
        (registry.setMode host network mode outside).outside = outside) ∨
      (registry.settings = none ∧
        (registry.setMode host network mode outside).registry = registry) ∨
      ∃ manager settings, registry.managers[network]? = some manager ∧
        registry.settings = some settings ∧
        (registry.setMode host network mode outside).registry =
          { registry with
            settings := some (settings.choose (store host) manager.network.currency mode
              (outside.commandAll host manager (switchTo mode registry.isActive))).2.1 } ∧
        (registry.setMode host network mode outside).outside =
          (settings.choose (store host) manager.network.currency mode
            (outside.commandAll host manager (switchTo mode registry.isActive))).2.2 := by
  rw [setMode]
  split
  · exact .inl ⟨rfl, rfl⟩
  · split
    · exact .inl ⟨rfl, rfl⟩
    · rename_i manager found
      split
      · cases loaded : registry.settings with
        | none => exact .inr (.inl ⟨rfl, rfl⟩)
        | some settings => exact .inr (.inr ⟨manager, settings, found, rfl, rfl, rfl⟩)
      · exact .inl ⟨rfl, rfl⟩

theorem modeForNetwork_cases (host : Host W) (session : EngineSession) (network : Network)
    (registry : Registry) (outside : Outside W) :
    (registry.settings = none ∧
        (registry.modeForNetwork host session network outside).2.1 = registry) ∨
      ∃ settings, registry.settings = some settings ∧
        (registry.modeForNetwork host session network outside).2.1 =
          { registry with
            settings := some (settings.modeFor (store host) network.currency
              (host.supports session network outside.world) outside).2.1 } := by
  rw [modeForNetwork]
  cases registry.settings with
  | none => exact .inl ⟨rfl, rfl⟩
  | some settings =>
      refine .inr ⟨settings, rfl, ?_⟩
      dsimp only
      split <;> rfl

/-- The mode to ask for is the one that is stored then, if the engine supports that. -/
theorem modeForNetwork_stored {host : Host W} {isThere : W → EngineManager → Prop}
    (switches : host.Switches isThere) {session : EngineSession} {network : Network}
    {registry : Registry} (opened : registry.session = some session) {outside : Outside W}
    {world : W} {mode : ManagerMode}
    (isStored : (registry.modeForNetwork host session network outside).2.1.storedMode? host world
      network = some mode) :
    (registry.modeForNetwork host session network outside).1 = mode := by
  rcases modeForNetwork_cases host session network registry outside with
    ⟨unloaded, same⟩ | ⟨settings, loaded, chosen⟩
  · rw [same, storedMode?, unloaded] at isStored
    cases isStored
  · rw [chosen] at isStored
    obtain ⟨_, _, known, opened', usable⟩ := storedMode?_eq_some_iff.1 isStored
    cases known
    cases opened.symm.trans opened'
    obtain ⟨noted, supported⟩ := Option.filter_eq_some_iff.1 usable
    rw [ConnectionSettings.mode?_modeFor switches.echoes.outside] at noted
    rw [modeForNetwork, loaded]
    dsimp only
    rw [Option.some.inj noted, switches.supports session network _ world, if_pos supported]

/-- A network is refused without effect, or it is registered and its manager asked for in
the mode that is chosen. -/
theorem addNetwork_cases (host : Host W) (network : Network) (registry : Registry)
    (outside : Outside W) :
    ((registry.addNetwork host network outside).registry = registry ∧
        (registry.addNetwork host network outside).outside = outside) ∨
      ∃ session made, registry.session = some session ∧
        registry.enlist network [] network.currencies = .ok made ∧
        (registry.addNetwork host network outside).registry =
          ((registry.register made).modeForNetwork host session network
            (outside.publish (.currenciesUpdated (registry.register made).currencyList))).2.1 ∧
        (registry.addNetwork host network outside).outside =
          (((registry.register made).modeForNetwork host session network
            (outside.publish (.currenciesUpdated
              (registry.register made).currencyList))).2.2.createManager host session network
            ((registry.register made).modeForNetwork host session network
              (outside.publish (.currenciesUpdated (registry.register made).currencyList))).1
            (made.map (·.uid))).2 := by
  rw [addNetwork]
  split
  · exact .inl ⟨rfl, rfl⟩
  · split
    · exact .inl ⟨rfl, rfl⟩
    · rename_i session opened
      split
      · exact .inl ⟨rfl, rfl⟩
      · rename_i made enlisted
        exact .inr ⟨session, made, opened, enlisted, rfl, rfl⟩

section Loading

variable {host : Host W} {registry : Registry} {outside : Outside W}

theorem unloaded_create {account : String}
    (unloaded : (registry.create host account outside).registry.settings = none) :
    registry.settings = none := by
  rw [create] at unloaded
  repeat' split at unloaded
  all_goals exact unloaded

theorem unloaded_connect (unloaded : (registry.connect host outside).registry.settings = none) :
    registry.settings = none := by
  rw [connect] at unloaded
  repeat' split at unloaded
  · exact unloaded
  · exact unloaded
  · cases unloaded

theorem unloaded_disconnect
    (unloaded : (registry.disconnect host outside).registry.settings = none) :
    registry.settings = none := by
  rw [disconnect] at unloaded
  split at unloaded <;> exact unloaded

theorem unloaded_setMode {network : String} {mode : ManagerMode}
    (unloaded : (registry.setMode host network mode outside).registry.settings = none) :
    registry.settings = none := by
  rcases setMode_cases host network mode registry outside with
    ⟨same, -⟩ | ⟨isNone, -⟩ | ⟨_, _, -, -, chosen, -⟩
  · rwa [same] at unloaded
  · exact isNone
  · rw [chosen] at unloaded
    cases unloaded

theorem unloaded_handleNotice {notice : Notice}
    (unloaded : (registry.handleNotice host notice outside).registry.settings = none) :
    registry.settings = none := by
  rw [handleNotice] at unloaded
  split at unloaded
  · assumption
  · split at unloaded
    · cases unloaded
    · dsimp only at unloaded
      split at unloaded <;> cases unloaded

theorem unloaded_addNetwork {network : Network}
    (unloaded : (registry.addNetwork host network outside).registry.settings = none) :
    registry.settings = none := by
  rcases addNetwork_cases host network registry outside with
    ⟨same, -⟩ | ⟨session, made, -, -, accepted, -⟩
  · rwa [same] at unloaded
  · rw [accepted] at unloaded
    rcases modeForNetwork_cases host session network (registry.register made)
      (outside.publish (.currenciesUpdated (registry.register made).currencyList)) with
      ⟨isNone, -⟩ | ⟨_, -, chosen⟩
    · exact isNone
    · rw [chosen] at unloaded
      cases unloaded

theorem unloaded_addManager {manager : EngineManager}
    (unloaded : (registry.addManager host manager outside).registry.settings = none) :
    registry.settings = none := by
  rw [addManager] at unloaded
  split at unloaded <;> exact unloaded

end Loading

section Turns

variable {host : Host W} {isThere : W → EngineManager → Prop} (switches : host.Switches isThere)
  {registry : Registry} {outside : Outside W}
  (h : registry.InStoredModes host outside.world)
  (there : ∀ (id : String) (manager : EngineManager), registry.managers[id]? = some manager →
    isThere outside.world manager)

include switches h there

theorem inStoredModes_create (vacant : registry.lifecycle = .uninitialized → registry.managers = ∅)
    (account : String) :
    (registry.create host account outside).registry.InStoredModes host
      (registry.create host account outside).outside.world := by
  have kept := (calm_create switches.steady_modes registry outside account).kept
  have same (found : (registry.create host account outside).registry = registry) :
      (registry.create host account outside).registry.InStoredModes host
        (registry.create host account outside).outside.world := by
    rw [found]
    exact h.of_same switches there kept rfl rfl rfl
  by_cases closed : registry.lifecycle = .uninitialized
  · refine .of_empty ?_
    rw [create]
    repeat' split
    all_goals exact vacant closed
  · refine same ?_
    rw [create, if_neg closed]
    rfl

theorem inStoredModes_connect (unloaded : registry.settings = none → registry.managers = ∅) :
    (registry.connect host outside).registry.InStoredModes host
      (registry.connect host outside).outside.world := by
  have kept := (calm_connect switches.steady_modes registry outside nofun).kept
  cases loaded : registry.settings with
  | none =>
      refine .of_empty ?_
      rw [connect]
      repeat' split
      all_goals exact unloaded loaded
  | some settings =>
      obtain ⟨managers, settings, session⟩ :
          (registry.connect host outside).registry.managers = registry.managers ∧
            (registry.connect host outside).registry.settings = registry.settings ∧
            (registry.connect host outside).registry.session = registry.session := by
        rw [connect]
        repeat' split
        · exact ⟨rfl, rfl, rfl⟩
        · exact ⟨rfl, rfl, rfl⟩
        · rename_i given
          rw [settingsOrLoad, loaded] at given
          cases given
          exact ⟨rfl, loaded.symm, rfl⟩
      exact h.of_same switches there kept managers settings session

theorem inStoredModes_disconnect :
    (registry.disconnect host outside).registry.InStoredModes host
      (registry.disconnect host outside).outside.world := by
  have kept := (calm_disconnect switches.steady_modes registry outside nofun).kept
  obtain ⟨managers, settings, session⟩ :
      (registry.disconnect host outside).registry.managers = registry.managers ∧
        (registry.disconnect host outside).registry.settings = registry.settings ∧
        (registry.disconnect host outside).registry.session = registry.session := by
    rw [disconnect]
    split <;> exact ⟨rfl, rfl, rfl⟩
  exact h.of_same switches there kept managers settings session

theorem inStoredModes_setMode
    (knows : ∀ (id : String) (manager : EngineManager), registry.managers[id]? = some manager →
      registry.Knows manager.network ∧ manager.network.id = id)
    (network : String) (mode : ManagerMode) :
    (registry.setMode host network mode outside).registry.InStoredModes host
      (registry.setMode host network mode outside).outside.world := by
  rcases setMode_cases host network mode registry outside with
    ⟨same, same'⟩ | ⟨unloaded, same⟩ | ⟨manager, settings, found, loaded, chosen, written⟩
  · rw [same, same']
    exact h
  · intro id manager _ stored isStored
    rw [same, storedMode?, unloaded] at isStored
    cases isStored
  · rw [chosen, written]
    obtain ⟨switched, others⟩ := switches.switchTo outside (there network manager found) mode
      registry.isActive
    have still := switches.steady_there.commandAll outside manager
      (switchTo mode registry.isActive) fun _ _ => trivial
    have kept := switches.steady_modes.choose
      (outside.commandAll host manager (switchTo mode registry.isActive)) settings
      manager.network.currency mode
    intro id other found' stored isStored
    refine (kept other (still other (there id other found'))).2.trans ?_
    obtain ⟨knowsManager, placed⟩ := knows network manager found
    obtain ⟨knowsOther, placed'⟩ := knows id other found'
    by_cases same : other = manager
    · subst same
      obtain ⟨_, _, loaded', -, usable⟩ := storedMode?_eq_some_iff.1 isStored
      cases loaded'
      have noted := (Option.filter_eq_some_iff.1 usable).1
      rw [ConnectionSettings.mode?_choose switches.echoes.outside] at noted
      exact switched.trans (Option.some.inj noted)
    · -- No other manager is of the same network, nor has it the same currency.
      have apart : other.network.id ≠ manager.network.id := fun id_eq => by
        rw [placed, placed'] at id_eq
        subst id_eq
        exact same (Option.some.inj (found'.symm.trans found))
      have differ : other.network.currency ≠ manager.network.currency := fun currency_eq =>
        apart (knowsOther.id_eq knowsManager currency_eq)
      refine (others other (there id other found') apart).trans (h id other found' stored ?_)
      refine storedMode?_of_number? switches isStored rfl loaded rfl ?_
      exact (ConnectionSettings.number?_choose switches.echoes.outside settings _ _ mode _).trans
        (if_neg differ)

theorem inStoredModes_addNetwork
    (knows : ∀ (id : String) (manager : EngineManager), registry.managers[id]? = some manager →
      registry.Knows manager.network)
    {network : Network} (own : network.lists network.currency = true) :
    (registry.addNetwork host network outside).registry.InStoredModes host
      (registry.addNetwork host network outside).outside.world := by
  have kept := (calm_addNetwork switches.steady_modes registry outside network).kept
  rcases addNetwork_cases host network registry outside with
    ⟨same, same'⟩ | ⟨session, made, opened, enlisted, accepted, -⟩
  · rw [same, same']
    exact h
  · rw [accepted]
    have alike := (modeForNetwork_keeps host session network (registry.register made)
      (outside.publish (.currenciesUpdated (registry.register made).currencyList))).1
    refine h.of_kept there kept alike.managers fun id manager found mode isStored => ?_
    -- The network's own currency was not registered before, and so is no manager's.
    have differ : manager.network.currency ≠ network.currency := fun eq => by
      obtain ⟨currency, known, -⟩ := knows id manager found
      exact own_not_mem own enlisted (eq ▸ Table.mem_iff_exists.2 ⟨currency, known⟩)
    rcases modeForNetwork_cases host session network (registry.register made)
      (outside.publish (.currenciesUpdated (registry.register made).currencyList)) with
      ⟨unloaded, same⟩ | ⟨settings, loaded, chosen⟩
    · rw [same, storedMode?, unloaded] at isStored
      cases isStored
    · rw [chosen] at isStored
      refine storedMode?_of_number? switches isStored rfl loaded rfl ?_
      exact ConnectionSettings.number?_modeFor_of_ne switches.echoes.outside settings differ _ _

theorem inStoredModes_handleNotice
    (placed : ∀ (id : String) (manager : EngineManager), registry.managers[id]? = some manager →
      manager.network.id = id) (notice : Notice) :
    (registry.handleNotice host notice outside).registry.InStoredModes host
      (registry.handleNotice host notice outside).outside.world := by
  rw [handleNotice]
  split
  · exact h
  · rename_i settings loaded
    have read := switches.steady_modes.heed outside settings notice
    have unchanged := settings.heed_of_unchanged (store host) notice outside
    split
    · rename_i heq
      rw [heq] at read unchanged
      exact h.of_same switches there read rfl (loaded ▸ congrArg some (unchanged (by simp))) rfl
    · rename_i changed adopted read' heq
      rw [heq] at read unchanged
      dsimp only
      split
      · rename_i session opened
        intro id manager found mode isStored
        obtain ⟨_, _, known, opened', usable⟩ := storedMode?_eq_some_iff.1 isStored
        cases known
        cases opened.symm.trans opened'
        refine switches.modeOf_adopted session adopted registry.isActive
          (pairwise_managerList placed) read' (fun other mem => ?_) _
          (mem_managerList.2 ⟨id, found⟩) usable
        obtain ⟨place, found'⟩ := mem_managerList.1 mem
        exact (read other (there place other found')).1
      · -- Nothing was taken over, or there is no session that could support anything.
        rename_i idle
        by_cases same : some adopted = registry.settings
        · exact h.of_same switches there read rfl same rfl
        · intro id manager _ mode isStored
          obtain ⟨_, session, -, opened, -⟩ := storedMode?_eq_some_iff.1 isStored
          refine absurd opened (idle session (Classical.byContradiction fun not => same ?_))
          exact (congrArg some (unchanged (by simpa using not))).trans loaded.symm

/-- A manager that comes must run in the stored mode already, since it is not told. -/
theorem inStoredModes_addManager_iff {manager : EngineManager}
    (present : isThere outside.world manager) :
    (registry.addManager host manager outside).registry.InStoredModes host
        (registry.addManager host manager outside).outside.world ↔
      (manager.network.id ∉ registry.managers → ∀ mode,
        registry.storedMode? host outside.world manager.network = some mode →
          host.modeOf manager outside.world = mode) := by
  have kept := (calm_addManager switches.steady_modes registry outside nofun manager).kept
  by_cases known : manager.network.id ∈ registry.managers
  · have same : (registry.addManager host manager outside).registry = registry := by
      rw [addManager, if_pos (Std.ExtTreeMap.contains_iff_mem.2 known)]
      rfl
    rw [same]
    exact ⟨fun _ absent => absurd known absent, fun _ => h.of_same switches there kept rfl rfl rfl⟩
  · have added : (registry.addManager host manager outside).registry =
        { registry with managers := registry.managers.insert manager.network.id manager } := by
      rw [addManager, if_neg (mt Std.ExtTreeMap.contains_iff_mem.1 known)]
    rw [added]
    have others :
        registry.InStoredModes host (registry.addManager host manager outside).outside.world :=
      h.of_same switches there kept rfl rfl rfl
    have same := (kept manager present).2
    constructor
    · intro agree _ mode isStored
      rw [← same]
      refine agree manager.network.id manager Std.ExtTreeMap.getElem?_insert_self mode ?_
      rwa [← storedMode?_world switches outside.world]
    · intro own id other found mode isStored
      rw [Std.ExtTreeMap.getElem?_insert] at found
      split at found
      · cases found
        refine same.trans (own known mode ?_)
        rwa [storedMode?_world switches]
      · exact others id other found mode isStored

end Turns

end Registry

namespace Scene

variable {host : Host W} {isThere : W → EngineManager → Prop} {config : Config} {scene : Scene W}

/-- What happens as it should: requests that do not end the session, networks that list
their own currency, managers that come in the mode they were asked for in, and notices.
Meanwhile managers stay and run in the same modes. -/
inductive Regular (host : Host W) (isThere : W → EngineManager → Prop) (scene : Scene W) :
    Happening W → Prop
  | create (account : String) : Regular host isThere scene (.given (.command (.create account)))
  | connect : Regular host isThere scene (.given (.command .connect))
  | disconnect : Regular host isThere scene (.given (.command .disconnect))
  | setMode (network : String) (mode : ManagerMode) :
      Regular host isThere scene (.given (.command (.setMode network mode)))
  | notice (notice : Notice) : Regular host isThere scene (.given (.notice notice))
  | networkAdded {network : Network} : network.lists network.currency = true →
      Regular host isThere scene (.given (.event (.system (.networkAdded network))))
  | managerAdded {manager : EngineManager} :
      (scene.registry.lifecycle ≠ .uninitialized → isThere scene.outside.world manager ∧
        (manager.network, host.modeOf manager scene.outside.world) ∈ scene.outside.requests) →
      Regular host isThere scene (.given (.event (.system (.managerAdded manager))))
  | meanwhile {world : W} {receipts : Receipts} :
      KeepsModes host isThere scene.outside { scene.outside with world, receipts } →
      Regular host isThere scene (.meanwhile world receipts)

/-- A manager that is registered was asked for in the mode that is stored by now. -/
def Undisturbed (host : Host W) (scene : Scene W) : Happening W → Prop
  | .given (.event (.system (.managerAdded manager))) =>
    scene.registry.lifecycle ≠ .uninitialized → manager.network.id ∉ scene.registry.managers →
      ∀ mode, scene.registry.storedMode? host scene.outside.world manager.network = some mode →
        (manager.network, mode) ∈ scene.outside.requests
  | _ => True

/-- Every manager runs in the mode that is stored for its network. -/
def InStoredModes (host : Host W) (scene : Scene W) : Prop :=
  scene.registry.InStoredModes host scene.outside.world

/-! ### What is known of networks -/

/-- The networks of managers are known, and so are those whose managers were asked for,
each in one mode; and before the first connect of a session nothing is known. -/
structure Attended (isThere : W → EngineManager → Prop) (config : Config) (scene : Scene W) :
    Prop where
  sound : scene.Sound config
  blank : scene.registry.settings = none →
    scene.registry.catalog = .empty ∧ scene.registry.currencies = ∅
  managers : ∀ (id : String) (manager : EngineManager),
    scene.registry.managers[id]? = some manager →
      scene.registry.Knows manager.network ∧ isThere scene.outside.world manager
  requested : ∀ request ∈ scene.outside.requests, scene.registry.Knows request.1
  distinct : ∀ request ∈ scene.outside.requests, ∀ other ∈ scene.outside.requests,
    request.1 = other.1 → request = other

theorem after_networkAdded (host : Host W) (network : Network)
    (initialized : scene.registry.lifecycle ≠ .uninitialized) :
    scene.after host (.given (.event (.system (.networkAdded network)))) =
      ⟨(scene.registry.addNetwork host network scene.outside).registry,
        (scene.registry.addNetwork host network scene.outside).outside⟩ :=
  (event_of_dispatch initialized rfl).1

theorem after_managerAdded (host : Host W) (manager : EngineManager)
    (initialized : scene.registry.lifecycle ≠ .uninitialized) :
    scene.after host (.given (.event (.system (.managerAdded manager)))) =
      ⟨(scene.registry.addManager host manager scene.outside).registry,
        (scene.registry.addManager host manager scene.outside).outside⟩ :=
  (event_of_dispatch initialized rfl).1

/-- A network that is known stays so until the session ends. -/
theorem Sound.knows_after (sound : scene.Sound config) (host : Host W) {happening : Happening W}
    (other : happening ≠ .given (.command .shutdown)) {network : Network}
    (knows : scene.registry.Knows network) :
    (scene.after host happening).registry.Knows network := by
  obtain ⟨currency, found, placed⟩ := knows
  refine ⟨currency, ?_, placed⟩
  cases happening with
  | meanwhile world receipts => exact found
  | given input =>
      obtain ⟨effects, -, outcome⟩ := sound.after_given host input
      generalize (scene.after host (.given input)).registry = registry at outcome
      cases outcome with
      | quiet alike => rwa [alike.currencies]
      | asked _ made => rcases made with rfl | ⟨session, rfl⟩ <;> exact found
      | connected | disconnected | manager | wallet | removal => exact found
      | ended => exact absurd rfl other
      | network _ _ enlisted alike =>
          rw [alike.currencies]
          exact Registry.getElem?_register_of_enlist enlisted found

/-- A registered manager was registered before, or it has just come. -/
theorem Sound.manager_after (sound : scene.Sound config) (host : Host W) {happening : Happening W}
    {id : String} {manager : EngineManager}
    (found : (scene.after host happening).registry.managers[id]? = some manager) :
    scene.registry.managers[id]? = some manager ∨
      happening = .given (.event (.system (.managerAdded manager))) ∧
        scene.registry.lifecycle ≠ .uninitialized := by
  cases happening with
  | meanwhile world receipts => exact .inl found
  | given input =>
      obtain ⟨effects, -, outcome⟩ := sound.after_given host input
      generalize (scene.after host (.given input)).registry = registry at outcome found
      cases outcome with
      | quiet alike => exact .inl (alike.managers ▸ found)
      | asked _ made =>
          rcases made with rfl | ⟨session, rfl⟩ <;> exact .inl found
      | connected | disconnected | wallet | removal => exact .inl found
      | ended => simp [Registry.fresh] at found
      | network _ _ _ alike => exact .inl (alike.managers ▸ found)
      | manager initialized =>
          rw [Std.ExtTreeMap.getElem?_insert] at found
          split at found
          · cases found
            exact .inr ⟨rfl, initialized⟩
          · exact .inl found

section Regularly

variable {happening : Happening W} (regular : scene.Regular host isThere happening)

include regular

theorem Regular.ne_shutdown : happening ≠ .given (.command .shutdown) := by
  rintro rfl
  cases regular

/-- Managers that are there stay. -/
theorem Regular.stays (switches : host.Switches isThere) {manager : EngineManager}
    (there : isThere scene.outside.world manager) :
    isThere (scene.after host happening).outside.world manager := by
  have steady := switches.steady_there
  have may (told : ManagerCommand) : (fun _ => True) told := trivial
  have closed (event : EngineEvent) (closed : scene.registry.lifecycle = .uninitialized) :
      isThere (scene.after host (.given (.event event))).outside.world manager := by
    rwa [(event_of_uninitialized host closed event).1]
  cases regular with
  | create account => exact (Registry.calm_create steady _ _ account).kept manager there
  | connect => exact (Registry.calm_connect steady _ _ trivial).kept manager there
  | disconnect => exact (Registry.calm_disconnect steady _ _ trivial).kept manager there
  | setMode network mode =>
      exact (Registry.calm_setMode steady _ _ may network mode).kept manager there
  | notice notice => exact (Registry.calm_handleNotice steady _ _ may notice).kept manager there
  | networkAdded =>
      by_cases initialized : scene.registry.lifecycle = .uninitialized
      · exact closed _ initialized
      · rw [after_networkAdded host _ initialized]
        exact (Registry.calm_addNetwork steady _ _ _).kept manager there
  | managerAdded =>
      by_cases initialized : scene.registry.lifecycle = .uninitialized
      · exact closed _ initialized
      · rw [after_managerAdded host _ initialized]
        exact (Registry.calm_addManager steady _ _ trivial _).kept manager there
  | meanwhile kept => exact (kept manager there).1

/-- Settings that are loaded stay so until the session ends. -/
theorem Regular.loaded (unloaded : (scene.after host happening).registry.settings = none) :
    scene.registry.settings = none := by
  cases regular with
  | create account => exact Registry.unloaded_create unloaded
  | connect => exact Registry.unloaded_connect unloaded
  | disconnect => exact Registry.unloaded_disconnect unloaded
  | setMode network mode => exact Registry.unloaded_setMode unloaded
  | notice notice => exact Registry.unloaded_handleNotice unloaded
  | networkAdded =>
      by_cases initialized : scene.registry.lifecycle = .uninitialized
      · rwa [(event_of_uninitialized host initialized _).1] at unloaded
      · rw [after_networkAdded host _ initialized] at unloaded
        exact Registry.unloaded_addNetwork unloaded
  | managerAdded =>
      by_cases initialized : scene.registry.lifecycle = .uninitialized
      · rwa [(event_of_uninitialized host initialized _).1] at unloaded
      · rw [after_managerAdded host _ initialized] at unloaded
        exact Registry.unloaded_addManager unloaded
  | meanwhile => exact unloaded

/-- Either no manager is asked for, or that of a network that was not known before. -/
theorem Regular.requests_after (sound : scene.Sound config) :
    (scene.after host happening).outside.requests = scene.outside.requests ∨
      (scene.after host happening).outside.requests = [] ∨
      ∃ network mode, (scene.after host happening).outside.requests =
          scene.outside.requests ++ [(network, mode)] ∧
        ¬scene.registry.Knows network ∧ (scene.after host happening).registry.Knows network := by
  obtain ⟨calls, same, cases⟩ := sound.calls_after host happening
  have requests : (scene.after host happening).outside.requests =
      calls.foldl EngineCall.request scene.outside.requests := by
    rw [Outside.requests, same, List.foldl_append]
    rfl
  rw [requests]
  rcases cases with rfl | rfl | rfl | ⟨account, mainnet, directory, -, -, rfl⟩ |
    ⟨network, made, mode, rfl, enlisted, alike, rfl⟩
  · exact .inl rfl
  · exact .inl rfl
  · exact .inl rfl
  · exact .inr (.inl rfl)
  · cases regular with
    | networkAdded own =>
        refine .inr (.inr ⟨network, mode, rfl, ?_, ?_⟩)
        · rintro ⟨currency, found, -⟩
          exact Registry.own_not_mem own enlisted (Table.mem_iff_exists.2 ⟨currency, found⟩)
        · rw [Registry.Knows, alike.currencies]
          exact Registry.knows_register own enlisted

/-- Before the settings are loaded, nothing comes to be known. -/
theorem Regular.blank_after (sound : scene.Sound config)
    (blank : scene.registry.catalog = .empty ∧ scene.registry.currencies = ∅)
    (unloaded : (scene.after host happening).registry.settings = none) :
    (scene.after host happening).registry.catalog = .empty ∧
      (scene.after host happening).registry.currencies = ∅ := by
  cases happening with
  | meanwhile world receipts => exact blank
  | given input =>
      obtain ⟨effects, -, outcome⟩ := sound.after_given host input
      generalize (scene.after host (.given input)).registry = registry at outcome unloaded ⊢
      cases outcome with
      | quiet alike => exact ⟨alike.catalog.trans blank.1, alike.currencies.trans blank.2⟩
      | asked _ made => rcases made with rfl | ⟨session, rfl⟩ <;> exact blank
      | connected => cases unloaded
      | disconnected | manager | wallet | removal => exact blank
      | ended => exact ⟨rfl, rfl⟩
      | network _ _ enlisted =>
          cases regular with
          | networkAdded own => exact absurd blank.1 (Registry.catalog_ne_empty own enlisted)

/-- What is known of networks is kept. -/
theorem Attended.after (attended : scene.Attended isThere config)
    (switches : host.Switches isThere) :
    (scene.after host happening).Attended isThere config := by
  have sound := attended.sound
  have knows {network : Network} (h : scene.registry.Knows network) :
      (scene.after host happening).registry.Knows network :=
    sound.knows_after host regular.ne_shutdown h
  have managers (id : String) (manager : EngineManager)
      (found : (scene.after host happening).registry.managers[id]? = some manager) :
      (scene.after host happening).registry.Knows manager.network ∧
        isThere (scene.after host happening).outside.world manager := by
    rcases sound.manager_after host found with before | ⟨rfl, initialized⟩
    · obtain ⟨known, there⟩ := attended.managers id manager before
      exact ⟨knows known, regular.stays switches there⟩
    · cases regular with
      | managerAdded delivered =>
          obtain ⟨there, mem⟩ := delivered initialized
          exact ⟨knows (attended.requested _ mem),
            Regular.stays (.managerAdded delivered) switches there⟩
  refine ⟨sound.after host happening, fun unloaded =>
    regular.blank_after sound (attended.blank (regular.loaded unloaded)) unloaded, managers, ?_, ?_⟩
  · intro request mem
    rcases regular.requests_after sound with same | none | ⟨network, mode, more, -, known⟩
    · exact knows (attended.requested request (same ▸ mem))
    · rw [none] at mem
      cases mem
    · rw [more] at mem
      rcases List.mem_append.1 mem with mem | mem
      · exact knows (attended.requested request mem)
      · rwa [List.mem_singleton.1 mem]
  · intro request mem other mem' same
    rcases regular.requests_after sound with unchanged | none | ⟨network, mode, more, unknown, -⟩
    · exact attended.distinct request (unchanged ▸ mem) other (unchanged ▸ mem') same
    · rw [none] at mem
      cases mem
    · rw [more] at mem mem'
      -- What was asked for before was for a known network, so that the new one differs.
      rcases List.mem_append.1 mem with mem | mem <;> rcases List.mem_append.1 mem' with mem' | mem'
      · exact attended.distinct request mem other mem' same
      · obtain rfl := List.mem_singleton.1 mem'
        exact absurd (attended.requested request mem) (same ▸ unknown)
      · obtain rfl := List.mem_singleton.1 mem
        exact absurd (attended.requested other mem') (same ▸ unknown)
      · rw [List.mem_singleton.1 mem, List.mem_singleton.1 mem']

/-! ### Stored and running modes -/

/-- As long as all managers run in the stored modes, they go on to do so exactly if none
is registered that was asked for in another one. -/
theorem inStoredModes_after_iff (switches : host.Switches isThere)
    (attended : scene.Attended isThere config) (agree : scene.InStoredModes host) :
    (scene.after host happening).InStoredModes host ↔ scene.Undisturbed host happening := by
  have there (id : String) (manager : EngineManager)
      (found : scene.registry.managers[id]? = some manager) :
      isThere scene.outside.world manager :=
    (attended.managers id manager found).2
  have knows (id : String) (manager : EngineManager)
      (found : scene.registry.managers[id]? = some manager) :
      scene.registry.Knows manager.network ∧ manager.network.id = id :=
    ⟨(attended.managers id manager found).1, attended.sound.registry.placed id manager found⟩
  cases regular with
  | create account =>
      have vacant := fun closed => (attended.sound.registry.vacant closed).2.1
      exact iff_of_true (Registry.inStoredModes_create switches agree there vacant account) trivial
  | connect =>
      refine iff_of_true (Registry.inStoredModes_connect switches agree there fun unloaded => ?_)
        trivial
      refine Std.ExtTreeMap.eq_empty_iff_forall_not_mem.2 fun id mem => ?_
      obtain ⟨manager, found⟩ := Table.mem_iff_exists.1 mem
      obtain ⟨currency, known, -⟩ := (knows id manager found).1
      simp [(attended.blank unloaded).2] at known
  | disconnect =>
      exact iff_of_true (Registry.inStoredModes_disconnect switches agree there) trivial
  | setMode network mode =>
      exact iff_of_true (Registry.inStoredModes_setMode switches agree there knows network mode)
        trivial
  | notice notice =>
      exact iff_of_true (Registry.inStoredModes_handleNotice switches agree there
        (fun id manager found => (knows id manager found).2) notice) trivial
  | @networkAdded network own =>
      refine iff_of_true ?_ trivial
      by_cases initialized : scene.registry.lifecycle = .uninitialized
      · rwa [(event_of_uninitialized host initialized _).1]
      · rw [after_networkAdded host network initialized]
        exact Registry.inStoredModes_addNetwork switches agree there
          (fun id manager found => (knows id manager found).1) own
  | @managerAdded manager delivered =>
      by_cases initialized : scene.registry.lifecycle = .uninitialized
      · rw [(event_of_uninitialized host initialized _).1]
        exact iff_of_true agree fun opened => absurd initialized opened
      · obtain ⟨present, asked⟩ := delivered initialized
        rw [after_managerAdded host manager initialized]
        refine (Registry.inStoredModes_addManager_iff switches agree there present).trans
          ⟨fun own _ absent mode isStored => ?_, fun undisturbed absent mode isStored => ?_⟩
        · rwa [← own absent mode isStored]
        · have asked' := undisturbed initialized absent mode isStored
          exact congrArg Prod.snd (attended.distinct _ asked _ asked' rfl)
  | meanwhile kept => exact iff_of_true (agree.of_same switches there kept rfl rfl rfl) trivial

end Regularly

/-- A manager is asked for in the mode that is stored then. -/
theorem Sound.asked_as_stored (sound : scene.Sound config) (switches : host.Switches isThere)
    {network : Network} {mode stored : ManagerMode} {uids : List CurrencyId}
    (asked : (scene.after host
      (.given (.event (.system (.networkAdded network))))).outside.calls =
        scene.outside.calls ++ [.createManager network mode uids])
    (isStored : (scene.after host
      (.given (.event (.system (.networkAdded network))))).registry.storedMode? host
        (scene.after host (.given (.event (.system (.networkAdded network))))).outside.world
        network = some stored) :
    mode = stored := by
  have idle (same : (scene.after host
      (.given (.event (.system (.networkAdded network))))).outside = scene.outside) : False := by
    rw [same] at asked
    simpa using congrArg List.length asked
  by_cases initialized : scene.registry.lifecycle = .uninitialized
  · exact (idle (congrArg Scene.outside
      (event_of_uninitialized host initialized _).1)).elim
  · rw [after_networkAdded host network initialized] at asked isStored idle
    rcases Registry.addNetwork_cases host network scene.registry scene.outside with
      ⟨-, same⟩ | ⟨session, made, opened, -, accepted, written⟩
    · exact (idle same).elim
    · dsimp only at asked isStored
      rw [accepted] at isStored
      rw [written] at asked
      let chosen := (scene.registry.register made).modeForNetwork host session network
        (scene.outside.publish (.currenciesUpdated (scene.registry.register made).currencyList))
      obtain ⟨writes, added, only⟩ := (Registry.modeForNetwork_keeps host session network
        (scene.registry.register made) (scene.outside.publish (.currenciesUpdated
          (scene.registry.register made).currencyList))).2
      have calls := ((Outside.adds_publish sound.heard _).trans added).trans
        (Outside.adds_createManager host chosen.2.2 session network chosen.1 (made.map (·.uid)))
      have same := calls.calls.symm.trans asked
      rw [Effect.filterMap_call?_of_writes only, List.append_cancel_left_eq] at same
      cases same
      have opened' : (scene.registry.register made).session = some session := opened
      exact Registry.modeForNetwork_stored switches opened' isStored

theorem Attended.first (isThere : W → EngineManager → Prop) (config : Config) (world : W) :
    (first config world).Attended isThere config where
  sound := .first config world
  blank _ := ⟨rfl, rfl⟩
  managers id manager found := by simp [Scene.first, Registry.fresh] at found
  requested _ mem := nomatch mem
  distinct _ mem := nomatch mem

end Scene

/-- As long as everything happens as it should, each manager is asked for in the mode that
is stored for its network then, unless the engine does not support that; but that all
managers run in the stored modes all along is the case exactly if nothing else has been
stored for their networks by the time they come. -/
theorem stored_modes_run_iff_undisturbed {host : Host W} {isThere : W → EngineManager → Prop}
    (switches : host.Switches isThere) (config : Config) (world : W)
    {happenings : List (Happening W)}
    (regular : Scene.Each host (Scene.Regular host isThere) (.first config world) happenings) :
    (∀ earlier network later,
        happenings = earlier ++ .given (.event (.system (.networkAdded network))) :: later →
          let before := (Scene.first config world).run host earlier
          let after := before.after host (.given (.event (.system (.networkAdded network))))
          ∀ mode uids, after.outside.calls =
              before.outside.calls ++ [.createManager network mode uids] →
            ∀ stored, after.registry.storedMode? host after.outside.world network = some stored →
              stored = mode) ∧
      ((∀ earlier later, happenings = earlier ++ later →
          ((Scene.first config world).run host earlier).InStoredModes host) ↔
        Scene.Each host (Scene.Undisturbed host) (.first config world) happenings) := by
  constructor
  · intro earlier network later split before after mode uids asked stored isStored
    have sound : before.Sound config := (Scene.Sound.first config world).run host earlier
    exact (sound.asked_as_stored switches asked isStored).symm
  · exact Scene.run_always_iff_while
      (fun _ _ attended regular => Scene.Attended.after regular attended switches)
      (fun _ _ attended regular => Scene.inStoredModes_after_iff regular switches attended)
      (.first isThere config world) (.of_empty rfl) regular

/-! ### An obedient engine -/

/-- A store in memory beside an engine that is known by the modes of its managers. -/
structure Device where
  memory : Memory
  /-- The modes, by the ids of networks. -/
  modes : Table String ManagerMode

/-- A host whose managers run in the mode that they are asked for in, and then in the one
that they are told. -/
def Host.obedient (catalog : Catalog) : Host Device where
  now _ := .epoch
  store :=
    ⟨fun key device => (device.memory.get key, device),
      fun key value version device =>
        let (answer, memory) := device.memory.set key value version
        (answer, { device with memory })⟩
  refreshCatalog device := (.ok catalog, device)
  makeDirectory device := (.ok (), device)
  removeDirectory device := device
  createSession _ _ _ device := (.ok ⟨0⟩, device)
  start _ _ device := device
  stop _ device := device
  supports _ _ _ _ := true
  defaultMode _ _ _ := .apiOnly
  createManager _ network mode _ device :=
    (.ok (), { device with modes := device.modes.insertIfNew network.id mode })
  modeOf manager device := device.modes[manager.network.id]?.getD .apiOnly
  stateOf _ _ := .created
  command manager told device :=
    match told with
    | .setMode mode => { device with modes := device.modes.insert manager.network.id mode }
    | _ => device
  balanceOf wallet _ := .zero wallet.currency.uid
  transfersOf _ _ := []
  receiveAddress _ _ := ⟨""⟩
  addressOf? _ _ _ := none
  draft _ _ _ _ device := (none, device)
  takeEvents device := ([], device)

/-- A manager is there if the device knows its mode. -/
def Device.HasManager (device : Device) (manager : EngineManager) : Prop :=
  manager.network.id ∈ device.modes

theorem Host.obedient_switches (catalog : Catalog) :
    (Host.obedient catalog).Switches Device.HasManager where
  echoes key value version device raw device' written := by
    obtain ⟨answer, -⟩ := Prod.mk.inj written
    change (device.memory.set key value version).1 = _ at answer
    rw [Memory.set] at answer
    split at answer
    · cases answer
      rfl
    · cases answer
  supports _ _ _ _ := rfl
  stays does manager there := by
    cases does with
    | createManager session network mode currencies device =>
        exact Std.ExtTreeMap.mem_insertIfNew.2 (.inr there)
    | @command told may other device =>
        cases told with
        | setMode mode => exact Std.ExtTreeMap.mem_insert.2 (.inr there)
        | _ => exact there
    | _ => exact there
  kept := by
    intro device device' does manager there
    cases does with
    | createManager session network mode currencies =>
        change (device.modes.insertIfNew network.id mode)[manager.network.id]?.getD _ = _
        rw [Std.ExtTreeMap.getElem?_insertIfNew, if_neg]
        · rfl
        · rintro ⟨same, absent⟩
          exact absent (Std.LawfulEqOrd.eq_of_compare same ▸ there)
    | @command told may other device =>
        cases told with
        | setMode mode => exact absurd rfl (may mode)
        | _ => rfl
    | _ => rfl
  switched device manager mode _ := by
    change (device.modes.insert manager.network.id mode)[manager.network.id]?.getD _ = mode
    rw [Std.ExtTreeMap.getElem?_insert_self]
    rfl
  others device manager other mode _ apart := by
    change (device.modes.insert manager.network.id mode)[other.network.id]?.getD _ = _
    rw [Std.ExtTreeMap.getElem?_insert,
      if_neg fun same => apart (Std.LawfulEqOrd.eq_of_compare same).symm]
    rfl

/-- Networks are also told apart by all that describes them. -/
instance : DecidableEq Network := fun a b =>
  decidable_of_iff (a.id = b.id ∧ a.name = b.name ∧ a.isMainnet = b.isMainnet ∧
    a.currency = b.currency ∧ a.currencies = b.currencies ∧ a.units = b.units) (by
      cases a
      cases b
      simp)

/-- The record of a wallet for which the API was chosen on bitcoin. -/
def WalletInfo.apiOnBitcoin : WalletInfo :=
  { WalletInfo.standard with
    modes := Table.ofPairs [(Network.bitcoin.currency, ManagerMode.apiOnly.number)] }

/-- A device after another one has written a record. -/
def Device.written (device : Device) (info : WalletInfo) (version : Nat) : Device :=
  { device with
    memory := device.memory.applyRemote (Persisted.key WalletInfo) (Persisted.encode info) version }

theorem Device.keepsModes_written (catalog : Catalog) (outside : Outside Device)
    (info : WalletInfo) (version : Nat) (receipts : Receipts) :
    KeepsModes (Host.obedient catalog) Device.HasManager outside
      { outside with world := outside.world.written info version, receipts } :=
  fun _ there => ⟨there, rfl⟩

/-- What another device chose is stored before the manager has come, and the manager still
comes in the mode that it was asked for in. -/
theorem coming_manager_misses_adoption :
    let host := Host.obedient .bitcoin
    let manager : EngineManager := ⟨0, .bitcoin⟩
    let start := Scene.first .standard ⟨.empty, ∅⟩
    let opening : List (Happening Device) :=
      [.given (.command (.create "")), .given (.command .connect),
        .given (.event (.system (.networkAdded .bitcoin)))]
    let written := (start.run host opening).outside.world.written .apiOnBitcoin 5
    let happenings := opening ++ [.meanwhile written .none,
      .given (.notice (.key (Persisted.key WalletInfo))),
      .given (.event (.system (.managerAdded manager)))]
    (host.Switches Device.HasManager ∧
        Scene.Each host (Scene.Regular host Device.HasManager) start happenings) ∧
      (start.run host happenings).registry.storedMode? host
        (start.run host happenings).outside.world .bitcoin = some .apiOnly ∧
      host.modeOf manager (start.run host happenings).outside.world = .p2pOnly ∧
      ¬(start.run host happenings).InStoredModes host := by
  intro host manager start opening written happenings
  have regular : Scene.Each host (Scene.Regular host Device.HasManager) start happenings := by
    simp only [happenings, opening, List.cons_append, List.nil_append, Scene.each_cons,
      Scene.each_nil, and_true]
    refine ⟨.create _, .connect, .networkAdded (by decide +kernel),
      .meanwhile (Device.keepsModes_written _ _ _ _ _), .notice _, .managerAdded fun _ => ⟨?_, ?_⟩⟩
    · unfold Device.HasManager
      decide +kernel
    · exact List.mem_of_mem_head? (by decide +kernel)
  obtain ⟨stored, running, registered⟩ :
      (start.run host happenings).registry.storedMode? host
          (start.run host happenings).outside.world .bitcoin = some .apiOnly ∧
        host.modeOf manager (start.run host happenings).outside.world = .p2pOnly ∧
        (start.run host happenings).registry.managers["bitcoin-mainnet"]?.map (·.network) =
          some .bitcoin := by
    decide +kernel
  refine ⟨⟨Host.obedient_switches .bitcoin, regular⟩, stored, running, ?_⟩
  generalize start.run host happenings = reached at stored running registered
  intro agree
  obtain ⟨other, found, network⟩ := Option.map_eq_some_iff.1 registered
  have same : host.modeOf other reached.outside.world = .p2pOnly :=
    (congrArg (fun network : Network =>
      reached.outside.world.modes[network.id]?.getD .apiOnly) network).trans running
  rw [← network] at stored
  have adopted := agree "bitcoin-mainnet" other found .apiOnly stored
  rw [same] at adopted
  cases adopted

/-- A manager that has come adopts what another device chooses then. -/
theorem registered_manager_adopts :
    let host := Host.obedient .bitcoin
    let manager : EngineManager := ⟨0, .bitcoin⟩
    let start := Scene.first .standard ⟨.empty, ∅⟩
    let opening : List (Happening Device) :=
      [.given (.command (.create "")), .given (.command .connect),
        .given (.event (.system (.networkAdded .bitcoin))),
        .given (.event (.system (.managerAdded manager)))]
    let written := (start.run host opening).outside.world.written .apiOnBitcoin 5
    let happenings := opening ++ [.meanwhile written .none,
      .given (.notice (.key (Persisted.key WalletInfo)))]
    Scene.Each host (Scene.Regular host Device.HasManager) start happenings ∧
      (∀ earlier later, happenings = earlier ++ later →
        (start.run host earlier).InStoredModes host) ∧
      host.modeOf manager (start.run host opening).outside.world = .p2pOnly ∧
      host.modeOf manager (start.run host happenings).outside.world = .apiOnly := by
  intro host manager start opening written happenings
  have regular : Scene.Each host (Scene.Regular host Device.HasManager) start happenings := by
    simp only [happenings, opening, List.cons_append, List.nil_append, Scene.each_cons,
      Scene.each_nil, and_true]
    refine ⟨.create _, .connect, .networkAdded (by decide +kernel), .managerAdded fun _ => ⟨?_, ?_⟩,
      .meanwhile (Device.keepsModes_written _ _ _ _ _), .notice _⟩
    · unfold Device.HasManager
      decide +kernel
    · exact List.mem_of_mem_head? (by decide +kernel)
  have undisturbed : Scene.Each host (Scene.Undisturbed host) start happenings := by
    simp only [happenings, opening, List.cons_append, List.nil_append, Scene.each_cons,
      Scene.each_nil, and_true]
    refine ⟨trivial, trivial, trivial, fun _ _ mode isStored => ?_, trivial, trivial⟩
    have stored := isStored.symm.trans (by decide +kernel : _ = some ManagerMode.p2pOnly)
    rw [Option.some.inj stored]
    exact List.mem_of_mem_head? (by decide +kernel)
  have agree := (stored_modes_run_iff_undisturbed (Host.obedient_switches .bitcoin) .standard _
    regular).2.2 undisturbed
  exact ⟨regular, agree, by decide +kernel, by decide +kernel⟩

end MultiWallet
