import MultiWallet.Proofs.Commanding
import MultiWallet.Proofs.Retaining

/-!
Modes that were chosen elsewhere. A notice leads to a newer record of the settings or
to nothing at all. The newer record is adopted by the registered managers for whose
networks it has a mode that the engine supports: each of them that runs in another mode
is told to switch, and nobody else is told anything.
-/

namespace MultiWallet

open Outside

variable {W : Type}

/-! ### What a notice leads to -/

/-- A notification leads to a newer record: it concerns the settings, and what the store
has under their key is not deleted, can be decoded, and is of a later version. -/
structure ConnectionSettings.IsOutdated {σ : Type} (store : Store σ) (notice : Notice) (s : σ)
    (settings : ConnectionSettings) (raw : RawRecord) (info : WalletInfo) : Prop where
  touches : notice.touches (Persisted.key WalletInfo) = true
  read : (store.get (Persisted.key WalletInfo) s).1 = .ok (some raw)
  kept : raw.deleted = false
  decoded : Persisted.decode? raw.value = some info
  newer : settings.version < raw.version

namespace ConnectionSettings

variable {σ : Type} {store : Store σ} {notice : Notice} {settings : ConnectionSettings} {s : σ}

/-- Nothing is taken over. -/
def StaysAsIs (store : Store σ) (notice : Notice) (s : σ) (settings : ConnectionSettings) : Prop :=
  (settings.heed store notice s).1 ≠ .ok true ∧
    ((settings.heed store notice s).2.2 = s ∨
      (settings.heed store notice s).2.2 = (store.get (Persisted.key WalletInfo) s).2)

/-- The newer record is taken over, and in all other cases nothing is. -/
theorem heed_cases (store : Store σ) (notice : Notice) (settings : ConnectionSettings) (s : σ) :
    (∃ raw info, settings.IsOutdated store notice s raw info ∧
        settings.heed store notice s =
          (.ok true, ⟨raw.withValue info⟩, (store.get (Persisted.key WalletInfo) s).2)) ∨
      (∀ raw info, ¬settings.IsOutdated store notice s raw info) ∧
        settings.StaysAsIs store notice s := by
  rw [StaysAsIs, heed]
  by_cases touches : notice.touches (Persisted.key WalletInfo) = true
  swap
  · rw [if_neg touches]
    exact .inr ⟨fun _ _ outdated => touches outdated.touches, by simp, .inl rfl⟩
  rw [if_pos touches, ← store.load_snd WalletInfo]
  have isRead (record : Record WalletInfo) : (store.load s).1 = .ok (some record) ↔
      ∃ raw, (store.get (Persisted.key WalletInfo) s).1 = .ok (some raw) ∧ raw.deleted = false ∧
        ∃ info, Persisted.decode? raw.value = some info ∧ record = raw.withValue info := by
    rw [Store.load_eq_some_iff, Store.found?_eq_some_iff]
    simp only [Record.decoded_eq_ok_iff]
  have reads {raw : RawRecord} {info : WalletInfo}
      (outdated : settings.IsOutdated store notice s raw info) :
      (store.load s).1 = .ok (some (raw.withValue info)) :=
    (isRead _).2 ⟨raw, outdated.read, outdated.kept, info, outdated.decoded, rfl⟩
  generalize store.load (α := WalletInfo) s = loaded at *
  obtain ⟨fault | _ | record, after⟩ := loaded
  · exact .inr ⟨fun _ _ outdated => (by cases reads outdated), by simp, .inr rfl⟩
  · exact .inr ⟨fun _ _ outdated => (by cases reads outdated), by simp, .inr rfl⟩
  by_cases newer : settings.version < record.version
  · obtain ⟨raw, read, kept, info, decoded, rfl⟩ := (isRead record).1 rfl
    exact .inl ⟨raw, info, ⟨touches, read, kept, decoded, newer⟩, if_neg (Nat.not_le.2 newer)⟩
  · dsimp only
    rw [if_pos (Nat.not_lt.1 newer)]
    refine .inr ⟨fun _ _ outdated => ?_, by simp, .inr rfl⟩
    cases reads outdated
    exact newer outdated.newer

end ConnectionSettings

theorem isOutdated_outside {host : Host W} {notice : Notice} {outside : Outside W}
    {settings : ConnectionSettings} {raw : RawRecord} {info : WalletInfo} :
    settings.IsOutdated (store host) notice outside raw info ↔
      settings.IsOutdated host.store notice outside.world raw info :=
  ⟨fun ⟨touches, read, kept, decoded, newer⟩ => ⟨touches, read, kept, decoded, newer⟩,
    fun ⟨touches, read, kept, decoded, newer⟩ => ⟨touches, read, kept, decoded, newer⟩⟩

/-! ### Managers that obey -/

/-- A manager does as it is told. It runs in one mode until it is itself told to switch,
whatever else is told to it or to other managers, and nobody goes because of that or of a
look at the store. -/
structure Host.Obeys (host : Host W) (isThere : W → EngineManager → Prop)
    (manager : EngineManager) : Prop where
  staysReading : ∀ key world other, isThere world other → isThere (host.store.get key world).2 other
  staysTold : ∀ teller told world other, isThere world other →
    isThere (host.command teller told world) other
  reading : ∀ key world, isThere world manager →
    host.modeOf manager (host.store.get key world).2 = host.modeOf manager world
  others : ∀ other told world, isThere world manager → isThere world other →
    manager.isSame other = false →
      host.modeOf manager (host.command other told world) = host.modeOf manager world
  kept : ∀ told world, isThere world manager → (∀ mode, told ≠ .setMode mode) →
    host.modeOf manager (host.command manager told world) = host.modeOf manager world
  switched : ∀ mode world, isThere world manager →
    host.modeOf manager (host.command manager (.setMode mode) world) = mode

/-- Nobody went, and a manager runs in the mode that it ran in. -/
structure Outside.KeepsMode (host : Host W) (isThere : W → EngineManager → Prop)
    (manager : EngineManager) (before after : Outside W) : Prop where
  there : ∀ other, isThere before.world other → isThere after.world other
  mode : host.modeOf manager after.world = host.modeOf manager before.world

namespace Outside.KeepsMode

variable {host : Host W} {isThere : W → EngineManager → Prop} {manager : EngineManager}

theorem refl (outside : Outside W) : KeepsMode host isThere manager outside outside :=
  ⟨fun _ there => there, rfl⟩

theorem trans {first second third : Outside W} (h : KeepsMode host isThere manager first second)
    (h' : KeepsMode host isThere manager second third) :
    KeepsMode host isThere manager first third :=
  ⟨fun other there => h'.there other (h.there other there), h'.mode.trans h.mode⟩

end Outside.KeepsMode

namespace Host.Obeys

variable {host : Host W} {isThere : W → EngineManager → Prop} {manager : EngineManager}
  (obeys : host.Obeys isThere manager)

include obeys

/-- What other managers are told leaves a manager in its mode. -/
theorem commandAll_other {other : EngineManager} (apart : manager.isSame other = false)
    (commands : List ManagerCommand) (outside : Outside W) (there : isThere outside.world manager)
    (thereOther : isThere outside.world other) :
    KeepsMode host isThere manager outside (outside.commandAll host other commands) := by
  induction commands generalizing outside with
  | nil => exact .refl outside
  | cons told rest ih =>
      have first : KeepsMode host isThere manager outside (outside.command host other told) :=
        ⟨obeys.staysTold other told outside.world,
          obeys.others other told outside.world there thereOther apart⟩
      exact first.trans (ih _ (first.there manager there) (first.there other thereOther))

/-- A manager that is told to switch does so. -/
theorem commandAll_switchTo (mode : ManagerMode) (reconnect : Bool) (outside : Outside W)
    (there : isThere outside.world manager) :
    (∀ other, isThere outside.world other → isThere
        (outside.commandAll host manager (Registry.switchTo mode reconnect)).world other) ∧
      host.modeOf manager
        (outside.commandAll host manager (Registry.switchTo mode reconnect)).world = mode := by
  let stopped := host.command manager .disconnect outside.world
  let switched := host.command manager (.setMode mode) stopped
  have still (other : EngineManager) (there : isThere outside.world other) :
      isThere switched other :=
    obeys.staysTold manager _ stopped other (obeys.staysTold manager _ outside.world other there)
  have runs : host.modeOf manager switched = mode :=
    obeys.switched mode stopped (obeys.staysTold manager _ outside.world manager there)
  cases reconnect with
  | false => exact ⟨still, runs⟩
  | true =>
      refine ⟨fun other there => obeys.staysTold manager .connect switched other
        (still other there), ?_⟩
      exact (obeys.kept .connect switched (still manager there) nofun).trans runs

end Host.Obeys

/-! ### Adopting -/

namespace Registry

variable {host : Host W} {session : EngineSession} {settings : ConnectionSettings}
  {reconnect : Bool}

/-- Where a mode is stored that is supported, a manager that runs in another one is told
to switch. -/
theorem adoption_eq (world : W) (manager : EngineManager) :
    adoption host session settings reconnect world manager =
      (settings.usable? manager.network.currency
        (host.supports session manager.network world)).elim [] fun mode =>
          if host.modeOf manager world = mode then [] else switchTo mode reconnect := by
  rw [adoption, ConnectionSettings.usable?]
  cases settings.mode? manager.network.currency with
  | none => rfl
  | some mode =>
      cases supported : host.supports session manager.network world mode with
      | false => simp [Option.filter, supported]
      | true =>
          by_cases same : host.modeOf manager world = mode
          · simp [Option.filter, supported, same]
          · simp [Option.filter, supported, same, Ne.symm same]

section Rows

variable {managers : List EngineManager} {manager : EngineManager} {world : W}
  (fixed : ∀ network world world', host.supports session network world =
    host.supports session network world')

include fixed

/-- Where no mode is stored that is supported, nothing is to be done. -/
theorem adoption_of_none (unusable : settings.usable? manager.network.currency
      (host.supports session manager.network world) = none) (world' : W) :
    adoption host session settings reconnect world' manager = [] := by
  rw [adoption_eq, fixed manager.network world' world, unusable]
  rfl

/-- In a row of adoptions, a manager without a mode to adopt is told nothing. -/
theorem told_adopted_of_none
    (idle : ∀ other ∈ managers, manager.isSame other = true → settings.usable?
      other.network.currency (host.supports session other.network world) = none)
    (outside : Outside W) :
    (Host.Switches.adopted session settings reconnect host managers outside).told manager =
      outside.told manager := by
  induction managers generalizing outside with
  | nil => rfl
  | cons first rest ih =>
      obtain ⟨here, others⟩ := List.forall_mem_cons.1 idle
      refine (ih others _).trans ((told_commandAll host outside manager first _).trans ?_)
      cases same : manager.isSame first with
      | false => exact List.append_nil _
      | true =>
          rw [adoption_of_none fixed (here same)]
          exact List.append_nil _

variable {isThere : W → EngineManager → Prop} (obeys : host.Obeys isThere manager)

include obeys

/-- And it runs in the mode that it ran in. -/
theorem keepsMode_adopted_of_none
    (idle : ∀ other ∈ managers, manager.isSame other = true → settings.usable?
      other.network.currency (host.supports session other.network world) = none)
    (outside : Outside W) (there : isThere outside.world manager)
    (thereOthers : ∀ other ∈ managers, isThere outside.world other) :
    KeepsMode host isThere manager outside
      (Host.Switches.adopted session settings reconnect host managers outside) := by
  induction managers generalizing outside with
  | nil => exact .refl outside
  | cons first rest ih =>
      obtain ⟨here, others⟩ := List.forall_mem_cons.1 idle
      obtain ⟨thereFirst, thereOthers⟩ := List.forall_mem_cons.1 thereOthers
      have kept : KeepsMode host isThere manager outside (outside.commandAll host first
          (adoption host session settings reconnect outside.world first)) := by
        cases same : manager.isSame first with
        | false => exact obeys.commandAll_other same _ outside there thereFirst
        | true =>
            rw [adoption_of_none fixed (here same)]
            exact .refl outside
      exact kept.trans (ih others _ (kept.there manager there) fun other mem =>
        kept.there other (thereOthers other mem))

/-- A manager with a mode to adopt is told to switch to it, unless it runs in it already. -/
theorem adoption_of_some {mode : ManagerMode}
    (usable : settings.usable? manager.network.currency
      (host.supports session manager.network world) = some mode)
    (outside : Outside W) (there : isThere outside.world manager) :
    let after := outside.commandAll host manager
      (adoption host session settings reconnect outside.world manager)
    (∀ other, isThere outside.world other → isThere after.world other) ∧
      host.modeOf manager after.world = mode ∧
      after.told manager = outside.told manager ++
        if host.modeOf manager outside.world = mode then [] else switchTo mode reconnect := by
  have commands : adoption host session settings reconnect outside.world manager =
      if host.modeOf manager outside.world = mode then [] else switchTo mode reconnect := by
    rw [adoption_eq, fixed manager.network outside.world world, usable]
    rfl
  dsimp only
  rw [commands, told_commandAll, EngineManager.isSame_self, if_pos rfl]
  split
  · rename_i runs
    exact ⟨fun _ there => there, runs, rfl⟩
  · obtain ⟨still, runs⟩ := obeys.commandAll_switchTo mode reconnect outside there
    exact ⟨still, runs, rfl⟩

/-- So it is in a row of adoptions. -/
theorem adopted_of_some
    (apart : managers.Pairwise fun manager other => manager.network.id ≠ other.network.id)
    (mem : manager ∈ managers) {mode : ManagerMode}
    (usable : settings.usable? manager.network.currency
      (host.supports session manager.network world) = some mode)
    (outside : Outside W) (thereAll : ∀ other ∈ managers, isThere outside.world other) :
    let after := Host.Switches.adopted session settings reconnect host managers outside
    host.modeOf manager after.world = mode ∧
      after.told manager = outside.told manager ++
        if host.modeOf manager outside.world = mode then [] else switchTo mode reconnect := by
  obtain ⟨earlier, later, rfl⟩ := List.append_of_mem mem
  obtain ⟨-, apartLater, apartEarlier⟩ := List.pairwise_append.1 apart
  -- The managers before and after it are other ones.
  have idle {others : List EngineManager}
      (differ : ∀ other ∈ others, other.network.id ≠ manager.network.id) :
      ∀ other ∈ others, manager.isSame other = true → settings.usable? other.network.currency
        (host.supports session other.network world) = none := by
    intro other memOther same
    cases same.symm.trans (EngineManager.isSame_of_ne (differ other memOther))
  have idleEarlier := idle fun other memOther =>
    apartEarlier other memOther manager List.mem_cons_self
  have idleLater := idle fun other memOther =>
    ((List.pairwise_cons.1 apartLater).1 other memOther).symm
  intro after
  let before := Host.Switches.adopted session settings reconnect host earlier outside
  let switched := before.commandAll host manager
    (adoption host session settings reconnect before.world manager)
  have whole : after = Host.Switches.adopted session settings reconnect host later switched := by
    simp only [after, Host.Switches.adopted, List.foldl_append, List.foldl_cons]
    rfl
  have kept : KeepsMode host isThere manager outside before :=
    keepsMode_adopted_of_none fixed obeys idleEarlier outside (thereAll manager mem)
      fun other memOther => thereAll other (List.mem_append_left _ memOther)
  have told : before.told manager = outside.told manager :=
    told_adopted_of_none fixed idleEarlier outside
  have there : ∀ other ∈ manager :: later, isThere before.world other := fun other memOther =>
    kept.there other (thereAll other (List.mem_append_right _ memOther))
  obtain ⟨still, runs, toldSwitch⟩ : (∀ other, isThere before.world other →
      isThere switched.world other) ∧ host.modeOf manager switched.world = mode ∧
      switched.told manager = before.told manager ++
        if host.modeOf manager before.world = mode then [] else switchTo mode reconnect :=
    adoption_of_some fixed obeys usable before (there manager List.mem_cons_self)
  have keptLater : KeepsMode host isThere manager switched after := by
    rw [whole]
    exact keepsMode_adopted_of_none fixed obeys idleLater switched
      (still manager (there manager List.mem_cons_self))
      fun other memOther => still other (there other (List.mem_cons_of_mem _ memOther))
  refine ⟨keptLater.mode.trans runs, ?_⟩
  rw [whole]
  rw [told_adopted_of_none fixed idleLater, toldSwitch, told, kept.mode]

end Rows

/-! ### Notices -/

/-- There is no mode for a manager to adopt: it is not registered, or none is stored that
is supported. -/
def HasNoModeFor (host : Host W) (registry : Registry) (world : W) (manager : EngineManager) :
    Prop :=
  ∀ (id : String) (other : EngineManager), registry.managers[id]? = some other →
    manager.isSame other = true → registry.storedMode? host world other.network = none

section Notices

variable {registry : Registry} {notice : Notice} {outside : Outside W}
  (loaded : registry.settings = some settings)

include loaded

/-- Where there is no newer record, nothing is done. -/
theorem handleNotice_of_not_isOutdated
    (never : ∀ raw info, ¬settings.IsOutdated host.store notice outside.world raw info) :
    (registry.handleNotice host notice outside).registry = registry ∧
      (registry.handleNotice host notice outside).outside.commands = outside.commands := by
  rcases settings.heed_cases (store host) notice outside with
    ⟨raw, info, outdated, -⟩ | ⟨-, changed, looked⟩
  · exact absurd (isOutdated_outside.1 outdated) (never raw info)
  have same := settings.heed_of_unchanged (store host) notice outside changed
  have silent : (settings.heed (store host) notice outside).2.2.commands = outside.commands := by
    rcases looked with looked | looked <;> rw [looked]
    rfl
  rw [handleNotice, loaded]
  dsimp only
  rcases heeded : settings.heed (store host) notice outside with
    ⟨fault | adopts, settings', outside'⟩
  all_goals
    rw [heeded] at changed same silent
    dsimp only at changed same silent ⊢
    subst same
  · exact ⟨by rw [← loaded], silent⟩
  · cases adopts with
    | true => exact absurd rfl changed
    | false => exact ⟨by rw [← loaded], silent⟩

variable {raw : RawRecord} {info : WalletInfo} (opened : registry.session = some session)
  (outdated : settings.IsOutdated host.store notice outside.world raw info)

include opened outdated

/-- A newer record is taken over, and adopted by the managers. -/
theorem handleNotice_of_isOutdated :
    registry.handleNotice host notice outside =
      ⟨.ok (), { registry with settings := some ⟨raw.withValue info⟩ },
        Host.Switches.adopted session ⟨raw.withValue info⟩ registry.isActive host
          registry.managerList ((store host).get (Persisted.key WalletInfo) outside).2⟩ := by
  rcases settings.heed_cases (store host) notice outside with
    ⟨raw', info', outdated', heeded⟩ | ⟨never, -⟩
  · have sameRaw : raw' = raw := by
      cases outdated'.read.symm.trans outdated.read
      rfl
    subst sameRaw
    obtain rfl := Option.some.inj (outdated'.decoded.symm.trans outdated.decoded)
    rw [handleNotice, loaded]
    dsimp only
    rw [heeded]
    dsimp only
    rw [opened]
    rfl
  · exact absurd (isOutdated_outside.2 outdated) (never raw info)

theorem storedMode?_of_isOutdated (world : W) (network : Network) :
    (registry.handleNotice host notice outside).registry.storedMode? host world network =
      (⟨raw.withValue info⟩ : ConnectionSettings).usable? network.currency
        (host.supports session network world) := by
  simp [handleNotice_of_isOutdated loaded opened outdated, storedMode?, opened]

variable {manager : EngineManager}

/-- For a manager without a mode to adopt, no manager like it has one. -/
theorem usable?_of_hasNoModeFor
    (idle : (registry.handleNotice host notice outside).registry.HasNoModeFor host outside.world
      manager) :
    ∀ other ∈ registry.managerList, manager.isSame other = true →
      (⟨raw.withValue info⟩ : ConnectionSettings).usable? other.network.currency
        (host.supports session other.network outside.world) = none := by
  intro other mem same
  obtain ⟨id, found⟩ := mem_managerList.1 mem
  rw [← storedMode?_of_isOutdated loaded opened outdated]
  refine idle id other ?_ same
  rw [handleNotice_of_isOutdated loaded opened outdated]
  exact found

variable (fixed : ∀ network world world', host.supports session network world =
    host.supports session network world')

include fixed

theorem told_handleNotice_of_none
    (idle : (registry.handleNotice host notice outside).registry.HasNoModeFor host outside.world
      manager) :
    (registry.handleNotice host notice outside).outside.told manager = outside.told manager := by
  have unmeant := usable?_of_hasNoModeFor loaded opened outdated idle
  rw [handleNotice_of_isOutdated loaded opened outdated]
  exact told_adopted_of_none fixed unmeant _

variable {isThere : W → EngineManager → Prop} (obeys : host.Obeys isThere manager)
  (there : isThere outside.world manager)
  (thereOthers : ∀ (id : String) (other : EngineManager), registry.managers[id]? = some other →
    isThere outside.world other)

include obeys there thereOthers

/-- A manager without a mode to adopt runs on as it ran. -/
theorem modeOf_handleNotice_of_none
    (idle : (registry.handleNotice host notice outside).registry.HasNoModeFor host outside.world
      manager) :
    host.modeOf manager (registry.handleNotice host notice outside).outside.world =
      host.modeOf manager outside.world := by
  have unmeant := usable?_of_hasNoModeFor loaded opened outdated idle
  rw [handleNotice_of_isOutdated loaded opened outdated]
  refine (keepsMode_adopted_of_none fixed obeys unmeant _
    (obeys.staysReading _ outside.world manager there) fun other mem => ?_).mode.trans
      (obeys.reading _ outside.world there)
  obtain ⟨id, found⟩ := mem_managerList.1 mem
  exact obeys.staysReading _ outside.world other (thereOthers id other found)

omit there in
/-- A registered manager with a mode to adopt switches to it, unless it runs in it already. -/
theorem handleNotice_of_some
    (placed : ∀ (id : String) (manager : EngineManager), registry.managers[id]? = some manager →
      manager.network.id = id)
    {id : String} (found : registry.managers[id]? = some manager) {mode : ManagerMode}
    (stored : (registry.handleNotice host notice outside).registry.storedMode? host outside.world
      manager.network = some mode) :
    host.modeOf manager (registry.handleNotice host notice outside).outside.world = mode ∧
      (registry.handleNotice host notice outside).outside.told manager =
        outside.told manager ++
          if host.modeOf manager outside.world = mode then []
          else switchTo mode registry.isActive := by
  rw [storedMode?_of_isOutdated loaded opened outdated] at stored
  rw [handleNotice_of_isOutdated loaded opened outdated]
  obtain ⟨runs, told⟩ := adopted_of_some fixed obeys (pairwise_managerList placed)
    (mem_managerList.2 ⟨id, found⟩) stored
    ((store host).get (Persisted.key WalletInfo) outside).2 fun other mem => by
      obtain ⟨id, found⟩ := mem_managerList.1 mem
      exact obeys.staysReading _ outside.world other (thereOthers id other found)
  rw [← obeys.reading (Persisted.key WalletInfo) outside.world (thereOthers id manager found)]
  exact ⟨runs, told⟩

end Notices

end Registry

/-! ### After any run -/

/-- After any run, while there are settings and a session, a notice leads to a newer record or
to nothing: the registry stays as it is then, and no manager is told anything. A newer record
takes the place of the settings. From then on each registered manager for which it has a mode
that is supported runs in that mode; it was told to disconnect, to switch and, while the
registry is active, to connect again if it ran in another mode, and nothing if not. All other
managers are told nothing, and run in the modes that they ran in. How a manager runs, and
what it was told because of that, is said only of one that does as it is told. -/
theorem notice_reaches_its_managers (host : Host W) (config : Config) (world : W)
    (happenings : List (Happening W)) (notice : Notice) (settings : ConnectionSettings)
    (session : EngineSession)
    (fixed : ∀ network world world', host.supports session network world =
      host.supports session network world') :
    let scene := (Scene.first config world).run host happenings
    let turn := scene.turn host (.notice notice)
    scene.registry.settings = some settings → scene.registry.session = some session →
      (∀ raw info, settings.IsOutdated host.store notice scene.outside.world raw info →
        turn.answer = .ok .done ∧
        turn.registry = { scene.registry with settings := some ⟨raw.withValue info⟩ } ∧
        ∀ manager : EngineManager,
          (turn.registry.HasNoModeFor host scene.outside.world manager →
            turn.outside.told manager = scene.outside.told manager) ∧
          ∀ isThere, host.Obeys isThere manager → isThere scene.outside.world manager →
            (∀ (id : String) (other : EngineManager), scene.registry.managers[id]? = some other →
              isThere scene.outside.world other) →
            (turn.registry.HasNoModeFor host scene.outside.world manager →
              host.modeOf manager turn.outside.world =
                host.modeOf manager scene.outside.world) ∧
            ∀ (id : String) (mode : ManagerMode), scene.registry.managers[id]? = some manager →
              turn.registry.storedMode? host scene.outside.world manager.network = some mode →
                host.modeOf manager turn.outside.world = mode ∧
                turn.outside.told manager = scene.outside.told manager ++
                  if host.modeOf manager scene.outside.world = mode then []
                  else [.disconnect, .setMode mode] ++
                    if scene.registry.lifecycle = .active then [.connect] else []) ∧
      ((∀ raw info, ¬settings.IsOutdated host.store notice scene.outside.world raw info) →
        turn.registry = scene.registry ∧ turn.outside.commands = scene.outside.commands) := by
  intro scene turn loaded opened
  have sound : scene.Sound config := (Scene.Sound.first config world).run host happenings
  refine ⟨fun raw info outdated => ?_, Registry.handleNotice_of_not_isOutdated loaded⟩
  have handled := Registry.handleNotice_of_isOutdated loaded opened outdated
  have answer : turn.answer = .ok .done :=
    (congrArg (fun turn : Turn W Unit => (turn.map fun () => Reply.done).answer) handled :)
  have registry : turn.registry =
      { scene.registry with settings := some ⟨raw.withValue info⟩ } :=
    (congrArg Turn.registry handled :)
  refine ⟨answer, registry, fun manager =>
    ⟨Registry.told_handleNotice_of_none loaded opened outdated fixed, ?_⟩⟩
  intro isThere obeys there thereOthers
  refine ⟨Registry.modeOf_handleNotice_of_none loaded opened outdated fixed obeys there
    thereOthers, fun id mode found stored => ?_⟩
  obtain ⟨runs, told⟩ := Registry.handleNotice_of_some loaded opened outdated fixed obeys
    thereOthers sound.registry.placed found stored
  refine ⟨runs, told.trans ?_⟩
  simp only [Registry.switchTo, Registry.isActive, beq_iff_eq]

/-- A manager of a device is the first one of its network. -/
def Device.HasFirst (device : Device) (manager : EngineManager) : Prop :=
  device.HasManager manager ∧ manager.number = 0

/-- The managers of an obedient engine do as they are told. -/
theorem Host.obedient_obeys (catalog : Catalog) (manager : EngineManager) :
    (Host.obedient catalog).Obeys Device.HasFirst manager where
  staysReading _ _ _ there := there
  staysTold teller told device other there :=
    ⟨(Host.obedient_switches catalog).stays (.command trivial teller device) other there.1, there.2⟩
  reading _ _ _ := rfl
  others other told device there thereOther apart := by
    have differs : manager.network.id ≠ other.network.id := by
      intro same
      rw [EngineManager.isSame, thereOther.2, there.2, ← same, beq_self_eq_true,
        beq_self_eq_true] at apart
      cases apart
    cases told with
    | setMode mode =>
        exact (Host.obedient_switches catalog).others device other manager mode there.1 differs
    | connect | disconnect | syncToDepth | submit => rfl
  kept told device there other :=
    (Host.obedient_switches catalog).kept (.command other manager device) manager there.1
  switched mode device there :=
    (Host.obedient_switches catalog).switched device manager mode there.1

/-- The manager of a network is told of what another device chose for it. -/
theorem bitcoin_manager_reached :
    let host := Host.obedient .bitcoin
    let manager : EngineManager := ⟨0, .bitcoin⟩
    let device : Device := ⟨.empty, ∅⟩
    let opening : List (Happening Device) :=
      [.given (.command (.create "")), .given (.command .connect),
        .given (.event (.system (.networkAdded .bitcoin))),
        .given (.event (.system (.managerAdded manager)))]
    let written :=
      ((Scene.first .standard device).run host opening).outside.world.written .apiOnBitcoin 5
    let happenings := opening ++ [.meanwhile written .none]
    let turn := ((Scene.first .standard device).run host happenings).turn host (.notice (.lagged 3))
    host.modeOf manager ((Scene.first .standard device).run host happenings).outside.world =
        .p2pOnly ∧
      host.modeOf manager turn.outside.world = .apiOnly ∧
      turn.outside.told manager =
        ((Scene.first .standard device).run host happenings).outside.told manager ++
          [.disconnect, .setMode .apiOnly, .connect] := by
  intro host manager device opening written happenings
  have general := notice_reaches_its_managers host .standard device happenings (.lagged 3)
  have isOlder : ((Scene.first .standard device).run host happenings).registry.settings.any
      (·.version < 5) = true := by
    decide +kernel
  have read : (host.store.get (Persisted.key WalletInfo)
      ((Scene.first .standard device).run host happenings).outside.world).1 =
        .ok (some ⟨Persisted.key WalletInfo, 5, .epoch, false,
          Persisted.encode WalletInfo.apiOnBitcoin⟩) := by
    decide +kernel
  have registered :
      ((Scene.first .standard device).run host happenings).registry.managers.toList.map
          (fun entry => (entry.2.number, entry.2.network)) = [(0, .bitcoin)] := by
    decide +kernel
  obtain ⟨opened, runs, active, there, listed⟩ :
      ((Scene.first .standard device).run host happenings).registry.session = some ⟨0⟩ ∧
      host.modeOf manager ((Scene.first .standard device).run host happenings).outside.world =
        .p2pOnly ∧
      ((Scene.first .standard device).run host happenings).registry.lifecycle = .active ∧
      "bitcoin-mainnet" ∈
        ((Scene.first .standard device).run host happenings).outside.world.modes ∧
      (((Scene.first .standard device).run host happenings).registry.managers[
        "bitcoin-mainnet"]?).isSome = true := by
    decide +kernel
  have stored : (((Scene.first .standard device).run host happenings).turn host
      (.notice (.lagged 3))).registry.storedMode? host
        ((Scene.first .standard device).run host happenings).outside.world .bitcoin =
      some .apiOnly := by
    decide +kernel
  obtain ⟨info, decoded⟩ : ∃ info : WalletInfo,
      Persisted.decode? (Persisted.encode WalletInfo.apiOnBitcoin) = some info :=
    Option.isSome_iff_exists.1 (by decide +kernel)
  -- From here on nothing more is to be known about the scene.
  generalize (Scene.first .standard device).run host happenings = scene at *
  intro turn
  obtain ⟨settings, loaded, older⟩ := (Option.any_eq_true _ _).1 isOlder
  have isManager (id : String) (other : EngineManager)
      (found : scene.registry.managers[id]? = some other) : other = manager := by
    have mem := List.mem_map_of_mem (f := fun entry => (entry.2.number, entry.2.network))
      (Std.ExtTreeMap.mem_toList_iff_getElem?_eq_some.2 found)
    rw [registered] at mem
    obtain ⟨number, network⟩ := other
    cases List.mem_singleton.1 mem
    rfl
  obtain ⟨other, found⟩ := Option.isSome_iff_exists.1 listed
  rw [isManager _ other found] at found
  obtain ⟨adopted, told⟩ := ((((general settings ⟨0⟩ (fun _ _ _ => rfl) loaded opened).1 _ info
    ⟨rfl, read, rfl, decoded, of_decide_eq_true older⟩).2.2 manager).2 Device.HasFirst
      (Host.obedient_obeys _ manager) ⟨there, rfl⟩ fun id other found =>
        isManager id other found ▸ ⟨there, rfl⟩).2 "bitcoin-mainnet" .apiOnly found stored
  rw [runs, if_neg (by decide), active, if_pos rfl] at told
  exact ⟨runs, adopted, told⟩

end MultiWallet
