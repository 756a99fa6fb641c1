import MultiWallet.Proofs.Refusing
import MultiWallet.Proofs.Sending
import MultiWallet.Proofs.Session

/-!
What managers are told. Requests, reports and notices each have a manager told a few
commands at most, of which there are only some rows: a switch begins with a disconnect,
a rescan with a connect, and a row that ends in a connection comes while the registry is
active only. From the day on that a manager is registered, all that it is told is made
up of such rows, and when the registry is not connected it is not either.
-/

namespace MultiWallet

open Outside

variable {W : Type}

/-! ### Rows of commands -/

/-- Whether two handles are those of one manager. -/
def EngineManager.isSame (manager other : EngineManager) : Bool :=
  other.number == manager.number && other.network.id == manager.network.id

/-- What a manager was told so far, in order. -/
def Outside.told (outside : Outside W) (manager : EngineManager) : List ManagerCommand :=
  (outside.commands.filter (manager.isSame ·.1)).map (·.2)

/-- Whether a command makes or ends a connection. -/
def ManagerCommand.isLink : ManagerCommand → Bool
  | connect | disconnect => true
  | setMode _ | syncToDepth _ | submit _ _ _ => false

/-- The last of some commands that makes or ends a connection. -/
def ManagerCommand.lastLink? (commands : List ManagerCommand) : Option ManagerCommand :=
  (commands.filter isLink).getLast?

/-- Wherever the second of two commands stands, the first stands right before it. -/
def ManagerCommand.Precedes (first second : ManagerCommand) (commands : List ManagerCommand) :
    Prop :=
  ∀ before after, commands = before ++ second :: after → ∃ earlier, before = earlier ++ [first]

/-- A manager changes its mode right after a disconnect, and synchronizes again right after
a connect. While the registry is idle, it was not connected last. -/
structure Disciplined (stage : Lifecycle) (commands : List ManagerCommand) : Prop where
  setMode : ∀ mode, ManagerCommand.disconnect.Precedes (.setMode mode) commands
  syncToDepth : ∀ depth, ManagerCommand.connect.Precedes (.syncToDepth depth) commands
  idle : stage = .idle → ManagerCommand.lastLink? commands ≠ some .connect

/-- What a manager is told in one turn, by which the registry comes from one stage of life
to the next. -/
inductive Briefing (now next : Lifecycle) : List ManagerCommand → Prop
  | nothing : (next = .idle → now = .idle) → Briefing now next []
  | submit (wallet : EngineWallet) (transfer : Transfer) (secret : Bytes) :
      (next = .idle → now = .idle) → Briefing now next [.submit wallet transfer secret]
  | connect : next ≠ .idle → Briefing now next [.connect]
  | disconnect : Briefing now next [.disconnect]
  | switch (mode : ManagerMode) (reconnect : Bool) : (reconnect = true → next ≠ .idle) →
      Briefing now next (Registry.switchTo mode reconnect)
  | rescan (depth : SyncDepth) : next ≠ .idle → Briefing now next [.connect, .syncToDepth depth]

namespace ManagerCommand

variable {first second : ManagerCommand} {commands others : List ManagerCommand}

theorem precedes_of_not_mem (absent : second ∉ commands) : first.Precedes second commands := by
  rintro before after rfl
  simp at absent

theorem precedes_pair (apart : first ≠ second) (other : ManagerCommand) :
    first.Precedes second [first, other] := by
  rintro (_ | ⟨head, tail⟩) after split
  · exact absurd (List.cons.inj split).1 apart
  · obtain ⟨rfl, rest⟩ := List.cons.inj split
    -- The second can only be the other one.
    cases tail with
    | nil => exact ⟨[], rfl⟩
    | cons => simp at rest

theorem Precedes.append (h : first.Precedes second commands)
    (h' : first.Precedes second others) : first.Precedes second (commands ++ others) := by
  intro before after split
  rcases List.append_eq_append_iff.1 split with ⟨rest, rfl, tail⟩ | ⟨rest, whole, tail⟩
  · obtain ⟨earlier, rfl⟩ := h' rest after tail
    exact ⟨commands ++ earlier, (List.append_assoc ..).symm⟩
  · cases rest with
    | nil =>
        obtain ⟨earlier, none⟩ := h' [] after tail.symm
        simp at none
    | cons head rest =>
        obtain ⟨rfl, -⟩ := List.cons.inj tail
        exact h before rest whole

theorem lastLink?_append (commands others : List ManagerCommand) :
    lastLink? (commands ++ others) = (lastLink? others).or (lastLink? commands) := by
  rw [lastLink?, List.filter_append, List.getLast?_append, lastLink?, lastLink?]

end ManagerCommand

namespace Briefing

open ManagerCommand

variable {now next : Lifecycle} {commands : List ManagerCommand}

theorem setMode (briefing : Briefing now next commands) (mode : ManagerMode) :
    ManagerCommand.disconnect.Precedes (.setMode mode) commands := by
  cases briefing with
  | nothing | submit | connect | disconnect | rescan => exact precedes_of_not_mem (by simp)
  | switch mode' reconnect =>
      refine (precedes_pair (by simp) (.setMode mode')).append (precedes_of_not_mem ?_)
      cases reconnect <;> simp

theorem syncToDepth (briefing : Briefing now next commands) (depth : SyncDepth) :
    ManagerCommand.connect.Precedes (.syncToDepth depth) commands := by
  cases briefing with
  | nothing | submit | connect | disconnect => exact precedes_of_not_mem (by simp)
  | switch mode reconnect =>
      refine precedes_of_not_mem ?_
      cases reconnect <;> simp [Registry.switchTo]
  | rescan depth' => exact precedes_pair (by simp) (.syncToDepth depth')

/-- Either nothing is said of connections, and the registry does not become idle, or the
last word on connections is no connect if the registry is idle then. -/
theorem lastLink? (briefing : Briefing now next commands) (idle : next = .idle) :
    (now = .idle ∧ ManagerCommand.lastLink? commands = none) ∨
      ManagerCommand.lastLink? commands = some .disconnect := by
  cases briefing with
  | nothing kept | submit _ _ _ kept => exact .inl ⟨kept idle, rfl⟩
  | connect active | rescan _ active => exact absurd idle active
  | disconnect => exact .inr rfl
  | switch mode reconnect active =>
      cases reconnect with
      | true => exact absurd idle (active rfl)
      | false => exact .inr rfl

end Briefing

theorem Disciplined.nil (stage : Lifecycle) : Disciplined stage [] where
  setMode _ := ManagerCommand.precedes_of_not_mem List.not_mem_nil
  syncToDepth _ := ManagerCommand.precedes_of_not_mem List.not_mem_nil
  idle _ := by simp [ManagerCommand.lastLink?]

/-- Discipline is kept by every turn. -/
theorem Disciplined.append {now next : Lifecycle} {commands others : List ManagerCommand}
    (h : Disciplined now commands) (briefing : Briefing now next others) :
    Disciplined next (commands ++ others) where
  setMode mode := (h.setMode mode).append (briefing.setMode mode)
  syncToDepth depth := (h.syncToDepth depth).append (briefing.syncToDepth depth)
  idle idle := by
    rw [ManagerCommand.lastLink?_append]
    rcases briefing.lastLink? idle with ⟨before, none⟩ | ended
    · rw [none, Option.none_or]
      exact h.idle before
    · simp [ended]

/-! ### What a manager is told -/

namespace EngineManager

variable {manager other : EngineManager}

@[simp] theorem isSame_self (manager : EngineManager) : manager.isSame manager = true := by
  simp [isSame]

theorem isSame_of_ne (apart : other.network.id ≠ manager.network.id) :
    manager.isSame other = false := by
  rw [isSame, beq_eq_false_iff_ne.2 apart, Bool.and_false]

end EngineManager

namespace Outside

variable {manager : EngineManager} {outside : Outside W}

theorem Adds.told {before after : Outside W} {effects : List Effect}
    (h : Adds before after effects) (manager : EngineManager) :
    after.told manager = before.told manager ++
      ((effects.filterMap Effect.command?).filter (manager.isSame ·.1)).map (·.2) := by
  rw [Outside.told, h.commands, List.filter_append, List.map_append, Outside.told]

/-- Steps that command nothing tell nobody anything. -/
theorem OnlyAdds.told {before after : Outside W}
    (h : OnlyAdds (·.command? = none) before after) (manager : EngineManager) :
    after.told manager = before.told manager := by
  obtain ⟨effects, added, silent⟩ := h
  rw [added.told, List.filterMap_eq_nil_iff.2 silent]
  exact List.append_nil _

theorem OnlyNews.told {before after : Outside W} (h : OnlyNews before after)
    (manager : EngineManager) : after.told manager = before.told manager :=
  (h.mono fun _ news => news.command?_eq_none).told manager

theorem steady_told (host : Host W) (manager : EngineManager) :
    Steady host (fun _ => False) fun before after : Outside W =>
      after.told manager = before.told manager where
  refl _ := rfl
  trans h h' := h'.trans h
  note outside _ silent := (outside.adds_note _).only (by simpa using silent) |>.told manager
  told _ _ _ := nofun
  world _ _ _ := rfl

theorem told_publish (outside : Outside W) (manager : EngineManager) (action : StateAction) :
    (outside.publish action).told manager = outside.told manager := by
  rw [publish]
  split
  · exact ((outside.adds_note (.published action)).only (by simp [Effect.command?])).told manager
  · exact (WalletController.onlyNews_log outside _ _).told manager

theorem told_commandAll (host : Host W) (outside : Outside W) (manager other : EngineManager)
    (commands : List ManagerCommand) :
    (outside.commandAll host other commands).told manager =
      outside.told manager ++ if manager.isSame other then commands else [] := by
  have entries : (commands.map (Effect.commanded other)).filterMap Effect.command? =
      commands.map (Prod.mk other) := by
    rw [List.filterMap_map]
    exact congrFun (List.filterMap_eq_map ..) commands
  rw [(outside.adds_commandAll host other commands).told, entries, List.filter_map, List.map_map]
  cases same : manager.isSame other <;> simp [Function.comp_def, same]

theorem told_submit (host : Host W) (outside : Outside W) (manager : EngineManager)
    (controller : WalletController) (transfer : Transfer) (secret : Bytes) :
    (controller.submit host transfer secret outside).told manager =
      outside.told manager ++
        if manager.isSame controller.manager then [.submit controller.wallet transfer secret]
        else [] := by
  rw [← (steady_told host manager).log outside]
  exact told_commandAll host _ manager controller.manager
    [.submit controller.wallet transfer secret]

section Rows

variable {host : Host W} {step : Outside W → EngineManager → Outside W}
  {managers : List EngineManager} {P : EngineManager → List ManagerCommand → Prop}

theorem told_foldl_of_apart
    (single : ∀ outside other, ∃ commands, P other commands ∧
      step outside other = outside.commandAll host other commands)
    (apart : ∀ other ∈ managers, manager.network.id ≠ other.network.id) (outside : Outside W) :
    (managers.foldl step outside).told manager = outside.told manager := by
  induction managers generalizing outside with
  | nil => rfl
  | cons other rest ih =>
      obtain ⟨here, others⟩ := List.forall_mem_cons.1 apart
      obtain ⟨commands, -, tells⟩ := single outside other
      rw [List.foldl_cons, ih others, tells, told_commandAll,
        EngineManager.isSame_of_ne (Ne.symm here)]
      exact List.append_nil _

/-- If each of some managers is told something, each is told what is meant for it. -/
theorem told_foldl
    (single : ∀ outside other, ∃ commands, P other commands ∧
      step outside other = outside.commandAll host other commands)
    (apart : managers.Pairwise fun manager other => manager.network.id ≠ other.network.id)
    (mem : manager ∈ managers) (outside : Outside W) :
    ∃ commands, P manager commands ∧
      (managers.foldl step outside).told manager = outside.told manager ++ commands := by
  induction managers generalizing outside with
  | nil => cases mem
  | cons other rest ih =>
      obtain ⟨here, others⟩ := List.pairwise_cons.1 apart
      obtain ⟨commands, meant, tells⟩ := single outside other
      rcases List.mem_cons.1 mem with rfl | later
      · refine ⟨commands, meant, ?_⟩
        rw [List.foldl_cons, told_foldl_of_apart single here, tells, told_commandAll,
          EngineManager.isSame_self]
        rfl
      · obtain ⟨told, meant', tells'⟩ := ih others later (step outside other)
        refine ⟨told, meant', ?_⟩
        rw [List.foldl_cons, tells', tells, told_commandAll,
          EngineManager.isSame_of_ne (here manager later)]
        simp

end Rows

end Outside

/-! ### Turns -/

/-- A turn in which a manager is told one of the rows. -/
def Turn.Briefs {α : Type} (manager : EngineManager) (registry : Registry) (outside : Outside W)
    (turn : Turn W α) : Prop :=
  ∃ commands, Briefing registry.lifecycle turn.registry.lifecycle commands ∧
    turn.outside.told manager = outside.told manager ++ commands

theorem Turn.Briefs.map {α β : Type} {manager : EngineManager} {registry : Registry}
    {outside : Outside W} {turn : Turn W α} (h : turn.Briefs manager registry outside)
    (f : α → β) : (turn.map f).Briefs manager registry outside :=
  h

namespace Registry

open Outside

variable {config : Config} {manager : EngineManager} {host : Host W} {registry : Registry}
  {outside : Outside W}

theorem briefs_of_silent {α : Type} {turn : Turn W α}
    (lifecycle : turn.registry.lifecycle = registry.lifecycle)
    (silent : turn.outside.told manager = outside.told manager) :
    turn.Briefs manager registry outside :=
  ⟨[], .nothing (lifecycle ▸ id), silent.trans (List.append_nil _).symm⟩

theorem briefs_refuse {α : Type} (error : RegistryError) :
    (registry.refuse outside error : Turn W α).Briefs manager registry outside :=
  briefs_of_silent rfl rfl

/-- A single manager is told a row, whatever else is done. -/
theorem briefs_of_one {α : Type} {turn : Turn W α} {other : EngineManager}
    {commands : List ManagerCommand} (lifecycle : turn.registry.lifecycle = registry.lifecycle)
    (briefing : Briefing registry.lifecycle registry.lifecycle commands)
    (told : turn.outside.told manager =
      outside.told manager ++ if manager.isSame other then commands else []) :
    turn.Briefs manager registry outside := by
  refine ⟨_, ?_, told⟩
  rw [lifecycle]
  split
  · exact briefing
  · exact .nothing id

/-- A switch connects again only what may be connected. -/
theorem briefing_switchTo (mode : ManagerMode) :
    Briefing registry.lifecycle registry.lifecycle (switchTo mode registry.isActive) := by
  refine .switch mode _ fun active idle => ?_
  rw [isActive, idle] at active
  cases active

theorem briefing_adoption {session : EngineSession} (settings : ConnectionSettings) (world : W)
    (other : EngineManager) :
    Briefing registry.lifecycle registry.lifecycle
      (adoption host session settings registry.isActive world other) := by
  rw [adoption]
  split
  · exact .nothing id
  split
  · exact briefing_switchTo _
  · exact .nothing id

section Requests

theorem told_commandManagers (sound : registry.Sound config) (mem : manager ∈ registry.managerList)
    (commands : EngineManager → List ManagerCommand) (outside : Outside W) :
    (registry.commandManagers host commands outside).told manager =
      outside.told manager ++ commands manager := by
  obtain ⟨_, rfl, told⟩ := told_foldl (P := fun manager told => told = commands manager)
    (fun outside other => ⟨_, rfl, rfl⟩) (pairwise_managerList sound.placed) mem outside
  exact told

theorem briefs_create (initialized : registry.lifecycle ≠ .uninitialized) (account : String) :
    (registry.create host account outside).Briefs manager registry outside := by
  rw [create, if_neg initialized]
  exact briefs_refuse _

theorem briefs_connect (sound : registry.Sound config) (mem : manager ∈ registry.managerList) :
    (registry.connect host outside).Briefs manager registry outside := by
  have steady := steady_told host manager
  rw [connect]
  split
  · exact briefs_refuse _
  · rename_i session _
    have refreshed := steady.world outside (.refreshCatalog outside.world)
    split <;> rename_i heq <;> rw [heq] at refreshed
    · exact briefs_of_silent rfl refreshed
    · rename_i world
      have loaded := steady_settingsOrLoad steady registry { outside with world }
      have started := steady.start (registry.settingsOrLoad host { outside with world }).2 session
        registry.undiscovered
      refine ⟨[.connect], .connect (by simp), ?_⟩
      rw [← refreshed, ← loaded, ← started]
      exact told_commandManagers sound mem _ _

theorem briefs_disconnect (sound : registry.Sound config) (mem : manager ∈ registry.managerList) :
    (registry.disconnect host outside).Briefs manager registry outside := by
  have steady := steady_told host manager
  rw [disconnect]
  split
  · exact briefs_refuse _
  · rename_i session _
    exact ⟨[.disconnect], .disconnect,
      (steady.stop _ session).trans (told_commandManagers sound mem _ outside)⟩

theorem briefs_setMode (network : String) (mode : ManagerMode) :
    (registry.setMode host network mode outside).Briefs manager registry outside := by
  have steady := steady_told host manager
  rw [setMode]
  split
  · exact briefs_refuse _
  split
  · exact briefs_refuse _
  rename_i other _
  split
  · have told := told_commandAll host outside manager other (switchTo mode registry.isActive)
    dsimp only
    split
    · exact briefs_of_one rfl (briefing_switchTo mode) told
    · exact briefs_of_one rfl (briefing_switchTo mode) ((steady.choose _ _ _ _).trans told)
  · exact briefs_refuse _

theorem briefs_rescan (network : String) (depth : SyncDepth) :
    (registry.rescan host network depth outside).Briefs manager registry outside := by
  have steady := steady_told host manager
  rw [rescan]
  split
  · rename_i active
    split
    · exact briefs_refuse _
    · rename_i other _
      exact briefs_of_one rfl (.rescan depth (by simp [active]))
        ((steady_publishTo steady registry _ network _).trans
          (told_commandAll host outside manager other _))
  · exact briefs_refuse _

theorem briefs_updateConnections (sound : registry.Sound config)
    (mem : manager ∈ registry.managerList) (enabled : List CurrencyId) :
    (registry.updateConnections host enabled outside).Briefs manager registry outside := by
  rw [updateConnections]
  split
  · rename_i active
    refine ⟨_, ?_, told_commandManagers sound mem _ outside⟩
    dsimp only
    split
    · exact .connect (by simp [active])
    · exact .disconnect
  · exact briefs_refuse _

theorem briefs_submit (uid : CurrencyId) (transfer : Transfer) (secret : Bytes) :
    (registry.submit host uid transfer secret outside).Briefs manager registry outside := by
  rw [submit]
  split
  · exact briefs_refuse _
  split
  · exact briefs_refuse _
  · rename_i receipt controller aside subscribed
    have news := (WalletController.onlyNews_subscribe subscribed).2
    have told := told_submit host aside manager controller transfer secret
    rw [news.told] at told
    exact briefs_of_one rfl (.submit controller.wallet transfer secret id) told

theorem briefs_unsubscribe (uid : CurrencyId) (transfer : TransferId) :
    (registry.unsubscribe uid transfer outside).Briefs manager registry outside := by
  rw [unsubscribe]
  split
  · exact briefs_refuse _
  · rename_i controller _
    have news := (controller.onlyNews_unsubscribe transfer outside).2
    split
    rename_i heq
    rw [heq] at news
    exact briefs_of_silent rfl (news.told manager)

theorem briefs_execute (sound : registry.Sound config) (mem : manager ∈ registry.managerList)
    (initialized : registry.lifecycle ≠ .uninitialized) {command : Command}
    (other : command ≠ .shutdown) :
    (registry.execute host command outside).Briefs manager registry outside := by
  have steady := steady_told host manager
  cases command with
  | create account => exact (briefs_create initialized account).map _
  | connect => exact (briefs_connect sound mem).map _
  | disconnect => exact (briefs_disconnect sound mem).map _
  | shutdown => exact absurd rfl other
  | setMode network mode => exact (briefs_setMode network mode).map _
  | rescan network depth => exact (briefs_rescan network depth).map _
  | updateConnections enabled => exact (briefs_updateConnections sound mem enabled).map _
  | draft uid address amount fee =>
      exact briefs_of_silent
        (quiet_draft host uid address amount fee registry outside).alike.lifecycle
        (calm_draft steady registry outside uid address amount fee).kept
  | submit uid transfer secret => exact (briefs_submit uid transfer secret).map _
  | unsubscribe uid transfer => exact (briefs_unsubscribe uid transfer).map _
  | snapshot => exact briefs_of_silent rfl rfl

end Requests

section Events

theorem briefs_addNetwork (network : Network) :
    (registry.addNetwork host network outside).Briefs manager registry outside := by
  have silent := (calm_addNetwork (steady_told host manager) registry outside network).kept
  refine briefs_of_silent ?_ silent
  rcases addNetwork_cases host network registry outside with
    ⟨same, -⟩ | ⟨session, made, -, -, accepted, -⟩
  · rw [same]
  · rw [accepted]
    exact (modeForNetwork_keeps host session network (registry.register made) _).1.lifecycle

/-- A manager that comes is connected while the registry is active. -/
theorem briefs_addManager (other : EngineManager) :
    (registry.addManager host other outside).Briefs manager registry outside := by
  rw [addManager]
  split
  · exact briefs_refuse _
  split
  · rename_i active
    have active : registry.lifecycle = .active := by simpa [isActive] using active
    exact briefs_of_one rfl (.connect (by simp [active]))
      (told_commandAll host outside manager other [.connect])
  · exact briefs_of_silent rfl rfl

theorem briefs_addWallet (other : EngineManager) (wallet : EngineWallet) :
    (registry.addWallet host other wallet outside).Briefs manager registry outside := by
  rw [addWallet]
  dsimp only
  split
  · exact briefs_refuse _
  split
  · exact briefs_refuse _
  · exact briefs_of_silent rfl (told_publish _ manager _)

theorem briefs_removeWallet (wallet : EngineWallet) :
    (registry.removeWallet wallet outside).Briefs manager registry outside := by
  rw [removeWallet]
  split
  · exact briefs_refuse _
  · rename_i controller _
    have news := WalletController.onlyNews_closePending controller.pending outside
    exact briefs_of_silent rfl ((told_publish _ manager _).trans (news.told manager))

theorem briefs_withController (wallet : EngineWallet)
    (handle : WalletController → Outside W → WalletController × Outside W)
    (kept : ∀ controller outside, (handle controller outside).1.bare = controller.bare ∧
      OnlyNews outside (handle controller outside).2) :
    (registry.withController wallet handle outside).Briefs manager registry outside := by
  rw [withController]
  dsimp only
  split
  · exact briefs_refuse _
  · rename_i controller _
    exact briefs_of_silent rfl ((kept controller outside).2.told manager)

theorem briefs_dispatch (event : EngineEvent) :
    (registry.dispatch host event outside).Briefs manager registry outside := by
  cases event with
  | system event =>
      cases event with
      | created => exact briefs_of_silent rfl rfl
      | networkAdded network => exact briefs_addNetwork network
      | managerAdded other => exact briefs_addManager other
  | manager other event =>
      by_cases isAdded : ∃ wallet, event = .walletAdded wallet
      · obtain ⟨wallet, rfl⟩ := isAdded
        exact briefs_addWallet other wallet
      by_cases isDeleted : ∃ wallet, event = .walletDeleted wallet
      · obtain ⟨wallet, rfl⟩ := isDeleted
        exact briefs_removeWallet wallet
      exact briefs_of_silent
        (quiet_handleManager host other (not_exists.1 isAdded) (not_exists.1 isDeleted) registry
          outside).alike.lifecycle
        (calm_handleManager (steady_told host manager) registry outside other
          (not_exists.1 isAdded) (not_exists.1 isDeleted)).kept
  | wallet _ wallet event =>
      have heeded : (registry.withController wallet (·.heedWalletEvent host event ·)
          outside).Briefs manager registry outside :=
        briefs_withController wallet _ fun controller =>
          controller.onlyNews_heedWalletEvent host event
      cases event with
      | created | changed | deleted => exact briefs_of_silent rfl rfl
      | transferAdded | transferChanged | transferDeleted | transferSubmitted | balanceUpdated
      | feeBasisUpdated => exact heeded
  | transfer _ wallet transfer event =>
      exact briefs_withController wallet _ fun controller =>
        controller.onlyNews_heedTransferEvent host transfer.id event

theorem briefs_handleNotice (sound : registry.Sound config) (mem : manager ∈ registry.managerList)
    (notice : Notice) :
    (registry.handleNotice host notice outside).Briefs manager registry outside := by
  rw [handleNotice]
  split
  · exact briefs_of_silent rfl rfl
  rename_i settings _
  have read := (steady_told host manager).heed outside settings notice
  split
  · rename_i heq
    rw [heq] at read
    exact briefs_of_silent rfl read
  rename_i adopted _ heq
  rw [heq] at read
  dsimp only
  split
  · rename_i session _
    have single (outside : Outside W) (other : EngineManager) : ∃ commands,
        Briefing registry.lifecycle registry.lifecycle commands ∧
          outside.commandAll host other
              (adoption host session adopted registry.isActive outside.world other) =
            outside.commandAll host other commands :=
      ⟨_, briefing_adoption adopted outside.world other, rfl⟩
    obtain ⟨commands, briefing, told⟩ := told_foldl
      (P := fun _ => Briefing registry.lifecycle registry.lifecycle) single
      (pairwise_managerList sound.placed) mem _
    exact ⟨commands, briefing, told.trans (congrArg (· ++ commands) read)⟩
  · exact briefs_of_silent rfl read

theorem briefs_event (initialized : registry.lifecycle ≠ .uninitialized) (event : EngineEvent) :
    (registry.handle host (.event event) outside).Briefs manager registry outside := by
  change ((registry.handleEvent host event outside).map _).Briefs manager registry outside
  rw [handleEvent, if_neg initialized]
  exact (briefs_dispatch event).map _

theorem briefs_handle (sound : registry.Sound config) (mem : manager ∈ registry.managerList)
    (initialized : registry.lifecycle ≠ .uninitialized) {input : Input}
    (other : input ≠ .command .shutdown) :
    (registry.handle host input outside).Briefs manager registry outside := by
  cases input with
  | command command => exact briefs_execute sound mem initialized fun same => other (same ▸ rfl)
  | notice notice => exact (briefs_handleNotice sound mem notice).map _
  | event event => exact briefs_event initialized event

end Events

end Registry

namespace Scene

open Registry

variable {config : Config} {host : Host W} {scene : Scene W} {manager : EngineManager}

/-- Of some happenings, one is the report by which a manager was registered, and the session
went on ever since. -/
structure Joined (host : Host W) (start : Scene W) (happenings : List (Happening W))
    (manager : EngineManager) (earlier later : List (Happening W)) : Prop where
  split : happenings =
    earlier ++ .given (.event (.system (.managerAdded manager))) :: later
  initialized : (start.run host earlier).registry.lifecycle ≠ .uninitialized
  isNew : manager.network.id ∉ (start.run host earlier).registry.managers
  goesOn : Each host GoesOn
    ((start.run host earlier).after host (.given (.event (.system (.managerAdded manager))))) later

theorem each_goesOn {happenings : List (Happening W)}
    (unended : .given (.command .shutdown) ∉ happenings) : Each host GoesOn scene happenings := by
  rintro earlier happening later rfl rfl
  simp at unended

theorem Sound.initialized_of_mem (sound : scene.Sound config)
    (mem : manager ∈ scene.registry.managerList) :
    scene.registry.lifecycle ≠ .uninitialized := by
  intro closed
  obtain ⟨id, found⟩ := mem_managerList.1 mem
  rw [(sound.registry.vacant closed).2.1] at found
  simp at found

/-- A manager stays until the session ends. -/
theorem Sound.mem_managerList_after (sound : scene.Sound config) (host : Host W)
    {happening : Happening W} (goesOn : scene.GoesOn happening)
    (mem : manager ∈ scene.registry.managerList) :
    manager ∈ (scene.after host happening).registry.managerList := by
  obtain ⟨id, found⟩ := mem_managerList.1 mem
  refine mem_managerList.2 ⟨id, ?_⟩
  cases happening with
  | meanwhile world receipts => exact found
  | given input =>
      obtain ⟨effects, -, outcome⟩ := sound.after_given host input
      generalize (scene.after host (.given input)).registry = next at outcome ⊢
      cases outcome with
      | quiet alike => rw [alike.managers, found]
      | asked _ made => rcases made with rfl | ⟨session, rfl⟩ <;> exact found
      | connected | disconnected | wallet | removal => exact found
      | ended initialized => exact absurd (goesOn rfl) initialized
      | network _ _ _ alike => rw [alike.managers]; exact found
      | manager _ isNew =>
          rw [Std.ExtTreeMap.getElem?_insert]
          split
          · rename_i same
            obtain rfl := Std.LawfulEqOrd.eq_of_compare same
            exact absurd (Table.mem_iff_exists.2 ⟨manager, found⟩) isNew
          · exact found

theorem Sound.briefed_after (sound : scene.Sound config) (host : Host W)
    {happening : Happening W} (goesOn : scene.GoesOn happening)
    (mem : manager ∈ scene.registry.managerList) :
    ∃ commands,
      Briefing scene.registry.lifecycle (scene.after host happening).registry.lifecycle commands ∧
      (scene.after host happening).outside.told manager =
        scene.outside.told manager ++ commands := by
  cases happening with
  | meanwhile world receipts => exact ⟨[], .nothing id, (List.append_nil _).symm⟩
  | given input =>
      have initialized := sound.initialized_of_mem mem
      exact briefs_handle sound.registry mem initialized fun same =>
        initialized (goesOn (same ▸ rfl))

/-- A manager that is registered was so all along, or it has joined. -/
theorem Sound.joined_of_mem (sound : scene.Sound config) (host : Host W)
    {happenings : List (Happening W)}
    (mem : manager ∈ (scene.run host happenings).registry.managerList) :
    (manager ∈ scene.registry.managerList ∧ Each host GoesOn scene happenings) ∨
      ∃ earlier later, scene.Joined host happenings manager earlier later := by
  induction happenings generalizing scene with
  | nil => exact .inl ⟨mem, each_nil⟩
  | cons happening rest ih =>
      have next := sound.after host happening
      rcases ih next mem with ⟨there, goesOn⟩ | ⟨earlier, later, joined⟩
      · have goesOnNow : scene.GoesOn happening := by
          rintro rfl
          exact absurd (uninitialized_after_shutdown host scene) (next.initialized_of_mem there)
        have kept (before : manager ∈ scene.registry.managerList) :
            manager ∈ scene.registry.managerList ∧ Each host GoesOn scene (happening :: rest) :=
          ⟨before, each_cons.2 ⟨goesOnNow, goesOn⟩⟩
        obtain ⟨id, found⟩ := mem_managerList.1 there
        rcases sound.manager_after host found with before | ⟨rfl, initialized⟩
        · exact .inl (kept (mem_managerList.2 ⟨id, before⟩))
        · -- The report is refused if there is a manager of the network already.
          rcases sound.event_cases host initialized (.system (.managerAdded manager)) with
            ⟨-, -, same⟩ | ⟨isNew, -⟩
          · rw [same] at there
            exact .inl (kept there)
          · exact .inr ⟨[], rest, rfl, initialized, isNew, goesOn⟩
      · exact .inr ⟨happening :: earlier, later, by rw [joined.split]; rfl, joined.initialized,
          joined.isNew, joined.goesOn⟩

/-- From when a manager joins, it is told row after row. -/
theorem Sound.disciplined_of_joined (sound : scene.Sound config) (host : Host W)
    {happenings : List (Happening W)} {earlier later : List (Happening W)}
    (joined : scene.Joined host happenings manager earlier later) :
    manager ∈ (scene.run host happenings).registry.managerList ∧
      ∃ since, (scene.run host happenings).outside.told manager =
          (scene.run host earlier).outside.told manager ++ since ∧
        Disciplined (scene.run host happenings).registry.lifecycle since := by
  obtain ⟨split, initialized, isNew, goesOn⟩ := joined
  subst split
  rw [run_append, run_cons]
  have before := sound.run host earlier
  generalize scene.run host earlier = start at before initialized isNew goesOn ⊢
  have listed : manager ∈ (start.after host
      (.given (.event (.system (.managerAdded manager))))).registry.managerList := by
    refine mem_managerList.2 ⟨manager.network.id, ?_⟩
    rw [(managerAdded_of_not_mem host initialized isNew).1]
    exact Std.ExtTreeMap.getElem?_insert_self
  obtain ⟨commands, briefing, told⟩ : (start.registry.handle host
      (.event (.system (.managerAdded manager))) start.outside).Briefs manager start.registry
      start.outside := briefs_event initialized _
  -- Everything that was told since the manager joined is kept track of.
  refine (run_keeps_while
    (P := fun scene => scene.Sound config ∧ manager ∈ scene.registry.managerList ∧
      ∃ since, scene.outside.told manager = start.outside.told manager ++ since ∧
        Disciplined scene.registry.lifecycle since)
    ?_ ⟨before.after host _, listed, commands, told, (Disciplined.nil _).append briefing⟩
    goesOn).2
  rintro scene happening ⟨sound, mem, since, told, disciplined⟩ goesOn
  obtain ⟨others, briefing, told'⟩ := sound.briefed_after host goesOn mem
  refine ⟨sound.after host happening, sound.mem_managerList_after host goesOn mem,
    since ++ others, ?_, disciplined.append briefing⟩
  rw [told', told, List.append_assoc]

end Scene

/-- At any time the managers that are registered are those that joined in the session that
goes on, and what each of them was told since then is disciplined: modes are set right after
a disconnect and synchronization begins right after a connect, and while the registry is
idle no manager is left connected. -/
theorem managers_disciplined (host : Host W) (config : Config) (world : W)
    (happenings : List (Happening W)) (manager : EngineManager) :
    let first := Scene.first config world
    let scene := first.run host happenings
    (manager ∈ scene.registry.managerList ↔
        ∃ earlier later, first.Joined host happenings manager earlier later) ∧
      ∀ earlier later, first.Joined host happenings manager earlier later →
        ∃ since, scene.outside.told manager =
            (first.run host earlier).outside.told manager ++ since ∧
          Disciplined scene.registry.lifecycle since := by
  intro first scene
  have sound : first.Sound config := .first config world
  refine ⟨⟨fun mem => ?_, ?_⟩, fun earlier later joined =>
    (sound.disciplined_of_joined host joined).2⟩
  · rcases sound.joined_of_mem host mem with ⟨there, -⟩ | joined
    · exact absurd rfl (sound.initialized_of_mem there)
    · exact joined
  · rintro ⟨earlier, later, joined⟩
    exact (sound.disciplined_of_joined host joined).1

/-- A manager that comes before the first connect is told to switch while it is connected and
while it is not. -/
theorem bitcoin_manager_disciplined :
    let host := Host.granting .bitcoin fun _ => []
    let manager : EngineManager := ⟨0, .bitcoin⟩
    let earlier : List (Happening (List EngineEvent)) := [.given (.command (.create ""))]
    let later : List (Happening (List EngineEvent)) :=
      [.given (.command .connect), .given (.command (.setMode "bitcoin-mainnet" .apiOnly)),
        .given (.command (.rescan "bitcoin-mainnet" .creation)), .given (.command .disconnect),
        .given (.command (.setMode "bitcoin-mainnet" .apiOnly))]
    let happenings := earlier ++ .given (.event (.system (.managerAdded manager))) :: later
    (Scene.first .standard []).Joined host happenings manager earlier later ∧
      ((Scene.first .standard []).run host happenings).outside.told manager = [.connect,
        .disconnect, .setMode .apiOnly, .connect, .connect, .syncToDepth .creation, .disconnect,
        .disconnect, .setMode .apiOnly] ∧
      Disciplined .idle
        (((Scene.first .standard []).run host happenings).outside.told manager) := by
  intro host manager earlier later happenings
  have joined : (Scene.first .standard []).Joined host happenings manager earlier later :=
    { split := rfl
      initialized := by decide +kernel
      isNew := by decide +kernel
      goesOn := Scene.each_goesOn (by simp [later]) }
  have untold : ((Scene.first .standard []).run host earlier).outside.told manager = [] := by
    decide +kernel
  have idle : ((Scene.first .standard []).run host happenings).registry.lifecycle = .idle := by
    decide +kernel
  obtain ⟨since, told, disciplined⟩ :=
    (managers_disciplined host .standard [] happenings manager).2 earlier later joined
  have whole : ((Scene.first .standard []).run host happenings).outside.told manager = since :=
    told.trans (congrArg (· ++ since) untold)
  refine ⟨joined, by decide +kernel, ?_⟩
  rw [whole]
  rwa [idle] at disciplined

end MultiWallet
