import MultiWallet.Proofs.Registering

/-!
One session together with its engine, while it is connected and disconnected. What
the engine reports follows from what it was called for; when a report is handled is
left open, except that the reports of one row are handled in their order.
-/

namespace MultiWallet

open Outside

variable {W : Type}

/-! ### Engines -/

/-- A report of something that is there from now on. -/
inductive Arrival where
  | network (network : Network)
  | manager (manager : EngineManager)
  | wallet (manager : EngineManager) (wallet : EngineWallet)

namespace Arrival

/-- The event by which a report arrives. -/
def event : Arrival → EngineEvent
  | network found => .system (.networkAdded found)
  | manager made => .system (.managerAdded made)
  | wallet source made => .manager source (.walletAdded made)

/-- The network that a report is about, or whose manager it is about. -/
def networkId? : Arrival → Option String
  | network found => some found.id
  | manager made => some made.network.id
  | wallet _ _ => none

/-- The currency of the wallet that a report is about. -/
def uid? : Arrival → Option CurrencyId
  | wallet _ made => some made.currency.uid
  | _ => none

end Arrival

/-- An engine, by the networks that it knows and by what it reports because of a
call that comes after some others: rows of reports, each in its order. -/
structure Engine where
  networks : List Network
  reports : List EngineCall → EngineCall → List (List Arrival)

namespace Engine

/-- An engine that reports what it is asked for, each thing once: the networks that
it knows, in any order, and a manager before its wallets. -/
structure Faithful (engine : Engine) : Prop where
  start : ∀ calls ids, (engine.reports calls (.start ids)).flatten.Perm
    ((engine.networks.filter (·.id ∈ ids)).map .network)
  stop : ∀ calls, engine.reports calls .stop = []
  createManager : ∀ calls network mode uids,
    ∃ (manager : EngineManager) (wallets : List EngineWallet),
      engine.reports calls (.createManager network mode uids) =
        [.manager manager :: wallets.map (.wallet manager)] ∧
      manager.network.id = network.id ∧ (wallets.map (·.currency.uid)).Perm uids

/-- Networks of one family with ids of their own, currencies of their own and units
for all of these. -/
structure Orderly (engine : Engine) (networkClass : NetworkClass) : Prop where
  family : ∀ network ∈ engine.networks, network.isMainnet = networkClass.isMainnet
  ids : (engine.networks.map (·.id)).Nodup
  currencies : (engine.networks.flatMap fun network => network.currencies.map (·.uid)).Nodup
  units : ∀ network ∈ engine.networks, ∀ core ∈ network.currencies, core.uid ∈ network.units

/-- The catalogs that a host gets describe all currencies of an engine. -/
def Described (engine : Engine) (host : Host W) : Prop :=
  ∀ world catalog, (host.refreshCatalog world).1 = .ok catalog →
    ∀ network ∈ engine.networks, ∀ core ∈ network.currencies, catalog.contains core.uid

/-- The engine that reports everything at once and in the order of its networks. -/
def prompt (networks : List Network) : Engine where
  networks
  reports
    | _, .start ids => [(networks.filter (·.id ∈ ids)).map .network]
    | _, .createManager network _ uids =>
      [.manager ⟨0, network⟩ ::
        (uids.map fun uid => ⟨0, ⟨uid, "", "", .native⟩⟩).map (.wallet ⟨0, network⟩)]
    | _, _ => []

theorem prompt_faithful (networks : List Network) : (prompt networks).Faithful where
  start _ ids := by rw [prompt, List.flatten_singleton]
  stop _ := rfl
  createManager _ network _ uids := by
    refine ⟨_, _, rfl, rfl, ?_⟩
    rw [List.map_map]
    exact .of_eq (List.map_id uids)

/-- The rows of reports because of some calls. -/
def respond (engine : Engine) : List EngineCall → List EngineCall → List (List Arrival)
  | _, [] => []
  | calls, call :: rest => engine.reports calls call ++ engine.respond (calls ++ [call]) rest

end Engine

/-- The networks that were asked for in the last session, after one more call. -/
def EngineCall.ask (networks : List String) : EngineCall → List String
  | createSession _ _ _ => []
  | createManager _ _ _ => networks
  | start ids => networks ++ ids
  | stop => networks

/-- The networks that the engine was asked for in the last session. -/
def Outside.asked (outside : Outside W) : List String := outside.calls.foldl EngineCall.ask []

theorem Outside.Adds.asked {before after : Outside W} {effects : List Effect}
    (h : Adds before after effects) :
    after.asked = (effects.filterMap Effect.call?).foldl EngineCall.ask before.asked := by
  rw [Outside.asked, h.calls, List.foldl_append]
  rfl

/-! ### Sittings -/

/-- A scene in the middle of a session, with what its engine has still to report. -/
structure Sitting (W : Type) where
  scene : Scene W
  rows : List (List Arrival)

/-- A move in a session: a request to connect or to disconnect is handled, or the
first report of a row, or meanwhile the world goes its own way. -/
inductive Move (W : Type) where
  | connect
  | disconnect
  | report (row : Nat)
  | meanwhile (world : W) (receipts : Receipts)

namespace Sitting

/-- All that is still to be reported. -/
def pending (sitting : Sitting W) : List Arrival := sitting.rows.flatten

/-- The networks that the engine was asked for. -/
def asked (sitting : Sitting W) : List String := sitting.scene.outside.asked

/-- Something is handled, and what the engine is called for adds to its rows. A
violation by an event is the end. -/
def give (engine : Engine) (host : Host W) (sitting : Sitting W) (input : Input) :
    Except Violation (Sitting W) :=
  match Queue.fatal? input (sitting.scene.turn host input).answer with
  | some broken => .error broken
  | none =>
    let calls := sitting.scene.outside.calls
    let scene := sitting.scene.after host (.given input)
    .ok ⟨scene, sitting.rows ++ engine.respond calls (scene.outside.calls.drop calls.length)⟩

/-- The sitting after a move. A row without reports gives nothing to handle. -/
def move (engine : Engine) (host : Host W) (sitting : Sitting W) :
    Move W → Except Violation (Sitting W)
  | .connect => sitting.give engine host (.command .connect)
  | .disconnect => sitting.give engine host (.command .disconnect)
  | .report row =>
    match sitting.rows[row]? with
    | some (report :: rest) =>
      give engine host ⟨sitting.scene, sitting.rows.set row rest⟩ (.event report.event)
    | _ => .ok sitting
  | .meanwhile world receipts =>
    .ok ⟨sitting.scene.after host (.meanwhile world receipts), sitting.rows⟩

/-- The sitting after some moves, unless one of them is the end. -/
def play (engine : Engine) (host : Host W) (sitting : Sitting W) (moves : List (Move W)) :
    Except Violation (Sitting W) :=
  moves.foldlM (move engine host) sitting

theorem play_append_ok {engine : Engine} {host : Host W} {sitting next : Sitting W}
    {earlier : List (Move W)} (ok : sitting.play engine host earlier = .ok next)
    (later : List (Move W)) :
    sitting.play engine host (earlier ++ later) = next.play engine host later := by
  rw [play, List.foldlM_append]
  change (sitting.play engine host earlier >>= fun next => next.play engine host later) = _
  rw [ok]
  rfl

theorem play_cons_ok {engine : Engine} {host : Host W} {sitting next : Sitting W} {move : Move W}
    (ok : sitting.move engine host move = .ok next) (rest : List (Move W)) :
    sitting.play engine host (move :: rest) = next.play engine host rest := by
  rw [play, List.foldlM_cons, ok]
  rfl

theorem give_ok {engine : Engine} {host : Host W} {sitting next : Sitting W} {input : Input}
    (ok : sitting.give engine host input = .ok next) {effects : List Effect}
    (added : Adds sitting.scene.outside (sitting.scene.after host (.given input)).outside
      effects) :
    Queue.fatal? input (sitting.scene.turn host input).answer = none ∧
      next = ⟨sitting.scene.after host (.given input),
        sitting.rows ++ engine.respond sitting.scene.outside.calls
          (effects.filterMap Effect.call?)⟩ := by
  rw [give] at ok
  split at ok
  · cases ok
  · rename_i unbroken
    refine ⟨unbroken, ?_⟩
    dsimp only at ok
    rw [added.calls, List.drop_left] at ok
    exact (Except.ok.inj ok).symm

theorem give_of_unbroken (engine : Engine) {host : Host W} {sitting : Sitting W} {input : Input}
    (unbroken : Queue.fatal? input (sitting.scene.turn host input).answer = none) :
    ∃ next, sitting.give engine host input = .ok next := by
  rw [give, unbroken]
  exact ⟨_, rfl⟩

/-- A row without its first report, and the report, are what there was before. -/
theorem perm_of_row {rows : List (List Arrival)} {row : Nat} {report : Arrival}
    {rest : List Arrival} (found : rows[row]? = some (report :: rest)) :
    rows.flatten.Perm (report :: (rows.set row rest).flatten) := by
  induction rows generalizing row with
  | nil => cases found
  | cons first rows ih =>
      cases row with
      | zero =>
          cases found
          exact .refl _
      | succ row =>
          rw [List.set_cons_succ, List.flatten_cons, List.flatten_cons]
          exact ((ih found).append_left first).trans List.perm_middle

/-! ### What a move does -/

/-- The same is registered. -/
structure SameTables (before after : Registry) : Prop where
  currencies : after.currencies = before.currencies
  managers : after.managers = before.managers
  wallets : ∀ uid : CurrencyId, uid ∈ after.wallets ↔ uid ∈ before.wallets

/-- The engine was asked for what has no manager yet, with a current catalog. -/
structure Started (engine : Engine) (host : Host W) (before after : Sitting W) : Prop where
  refreshed : ∃ world, (host.refreshCatalog world).1 = .ok after.scene.registry.catalog
  same : SameTables before.scene.registry after.scene.registry
  asked : after.asked = before.asked ++ before.scene.registry.undiscovered
  pending : after.pending.Perm (before.pending ++
    (engine.networks.filter (·.id ∈ before.scene.registry.undiscovered)).map .network)

/-- What became of the first report of a row. -/
inductive Handled (before after : Sitting W) : Prop
  /-- The network is accepted, and the engine asked for its manager. -/
  | network {network : Network} {made : List Currency} {manager : EngineManager}
      {wallets : List EngineWallet} {rest : List Arrival} :
      before.pending.Perm (.network network :: rest) →
      before.scene.registry.enlist network [] network.currencies = .ok made →
      Registry.Alike (before.scene.registry.register made) after.scene.registry →
      after.asked = before.asked → manager.network.id = network.id →
      (wallets.map (·.currency.uid)).Perm (made.map (·.uid)) →
      after.pending = rest ++ .manager manager :: wallets.map (.wallet manager) →
      Handled before after
  | manager {manager : EngineManager} {rest : List Arrival} :
      before.pending.Perm (.manager manager :: rest) →
      manager.network.id ∉ before.scene.registry.managers →
      after.scene.registry = { before.scene.registry with
        managers := before.scene.registry.managers.insert manager.network.id manager } →
      after.asked = before.asked → after.pending = rest → Handled before after
  | wallet {manager : EngineManager} {wallet : EngineWallet} {currency : Currency}
      {rest : List Arrival} :
      before.pending.Perm (.wallet manager wallet :: rest) →
      wallet.currency.uid ∉ before.scene.registry.wallets →
      after.scene.registry = before.scene.registry.withWallet wallet.currency.uid
        (.fresh currency wallet manager) →
      after.asked = before.asked → after.pending = rest → Handled before after

/-- What a move that is not the end makes of a sitting. -/
inductive Advance (engine : Engine) (host : Host W) (before : Sitting W) :
    Move W → Sitting W → Prop
  /-- Nothing happens. -/
  | still {move : Move W} {after : Sitting W} :
      SameTables before.scene.registry after.scene.registry →
      after.scene.registry.catalog = before.scene.registry.catalog →
      after.asked = before.asked → after.pending = before.pending →
      Advance engine host before move after
  | started {after : Sitting W} :
      (before.scene.turn host (.command .connect)).answer = .ok .done →
      Started engine host before after → Advance engine host before .connect after
  | handled {row : Nat} {after : Sitting W} :
      Handled before after → Advance engine host before (.report row) after

/-- What holds of a sitting at all times: there is a session, and only networks are
reported that the engine knows, and asked for that are to be discovered. -/
structure Steady (engine : Engine) (config : Config) (sitting : Sitting W) : Prop where
  sound : sitting.scene.Sound config
  initialized : sitting.scene.registry.lifecycle ≠ .uninitialized
  known : ∀ network, .network network ∈ sitting.pending → network ∈ engine.networks
  required : ∀ id ∈ sitting.asked, id ∈ config.requiredNetworks

section Moves

variable {engine : Engine} {config : Config} {host : Host W} {sitting next : Sitting W}

theorem advance_still_of_alike {input : Input} {effects : List Effect}
    (added : Adds sitting.scene.outside (sitting.scene.after host (.given input)).outside effects)
    (ok : sitting.give engine host input = .ok next)
    (alike : Registry.Alike sitting.scene.registry
      (sitting.scene.after host (.given input)).registry)
    (quiet : ∀ effect ∈ effects, effect.IsQuiet) (move : Move W) :
    Advance engine host sitting move next := by
  obtain ⟨-, rfl⟩ := give_ok ok added
  refine .still ⟨alike.currencies, alike.managers, alike.mem_wallets⟩ alike.catalog ?_ ?_
  · rw [asked, added.asked, Effect.filterMap_call?_of_quiet quiet]
    rfl
  · rw [pending, Effect.filterMap_call?_of_quiet quiet, Engine.respond, List.append_nil]
    rfl

/-- A request to connect that is carried out has the engine start. -/
theorem Steady.started_of_done (steady : sitting.Steady engine config)
    (faithful : engine.Faithful)
    (done : (sitting.scene.turn host (.command .connect)).answer = .ok .done)
    (ok : sitting.give engine host (.command .connect) = .ok next) :
    Started engine host sitting next := by
  obtain ⟨idle, active⟩ := (Scene.connect_cases host sitting.scene).elim And.right
    fun failed => absurd done failed.1
  obtain ⟨effects, added, outcome⟩ := steady.sound.after_given host (.command .connect)
  obtain ⟨-, rfl⟩ := give_ok ok added
  change (sitting.scene.after host (.given (.command .connect))).registry.lifecycle = _ at active
  generalize registered : (sitting.scene.after host (.given (.command .connect))).registry =
    registry at outcome active
  cases outcome with
  | quiet alike =>
      rw [alike.lifecycle, idle] at active
      cases active
  | @connected world catalog settings effects others _ refreshed quiet quiet' =>
      have calls : (effects ++ [Effect.called (.start sitting.scene.registry.undiscovered)]
          ++ others).filterMap Effect.call? = [.start sitting.scene.registry.undiscovered] :=
        Effect.filterMap_call?_between quiet quiet' _
      constructor
      · exact ⟨world, by rw [registered]; exact refreshed⟩
      · rw [registered]
        exact ⟨rfl, rfl, fun _ => .rfl⟩
      · rw [asked, added.asked, calls]
        rfl
      · rw [calls, pending, List.flatten_append, Engine.respond, Engine.respond, List.append_nil]
        exact (faithful.start _ _).append_left _

theorem Steady.advance_connect (steady : sitting.Steady engine config)
    (faithful : engine.Faithful) (ok : sitting.give engine host (.command .connect) = .ok next) :
    Advance engine host sitting .connect next := by
  rcases Scene.connect_cases host sitting.scene with ⟨done, -⟩ | ⟨-, same⟩
  · exact .started done (steady.started_of_done faithful done ok)
  obtain ⟨effects, added, outcome⟩ := steady.sound.after_given host (.command .connect)
  change (sitting.scene.after host (.given (.command .connect))).registry = _ at same
  generalize registered : (sitting.scene.after host (.given (.command .connect))).registry =
    registry at outcome same
  cases outcome with
  | quiet alike quiet => exact advance_still_of_alike added ok (registered ▸ alike) quiet _
  | connected idle =>
      have active := congrArg Registry.lifecycle same
      exact Lifecycle.noConfusion (idle.symm.trans active.symm)

theorem Steady.advance_disconnect (steady : sitting.Steady engine config)
    (faithful : engine.Faithful)
    (ok : sitting.give engine host (.command .disconnect) = .ok next) :
    Advance engine host sitting .disconnect next := by
  obtain ⟨effects, added, outcome⟩ := steady.sound.after_given host (.command .disconnect)
  generalize registered : (sitting.scene.after host (.given (.command .disconnect))).registry =
    registry at outcome
  cases outcome with
  | quiet alike quiet => exact advance_still_of_alike added ok (registered ▸ alike) quiet _
  | @disconnected effects active quiet =>
      have calls := Effect.filterMap_call?_concat quiet .stop
      obtain ⟨-, rfl⟩ := give_ok ok added
      refine .still ?_ ?_ ?_ ?_
      · dsimp only
        rw [registered]
        exact ⟨rfl, rfl, fun _ => .rfl⟩
      · dsimp only
        rw [registered]
      · rw [asked, added.asked, calls]
        rfl
      · rw [pending, calls, Engine.respond, faithful.stop, Engine.respond, List.append_nil,
          List.append_nil]
        rfl

/-- An event that makes no call of the engine has it report no more. -/
theorem give_ok_of_no_calls {event : EngineEvent} {effects : List Effect}
    (ok : sitting.give engine host (.event event) = .ok next)
    (added : Adds sitting.scene.outside
      (sitting.scene.after host (.given (.event event))).outside effects)
    (noCalls : effects.filterMap Effect.call? = []) :
    sitting.scene.broken? host event = none ∧
      next.scene = sitting.scene.after host (.given (.event event)) ∧
      next.asked = sitting.asked ∧ next.pending = sitting.pending := by
  obtain ⟨unbroken, rfl⟩ := give_ok ok added
  refine ⟨unbroken, rfl, ?_, ?_⟩
  · rw [asked, added.asked, noCalls]
    rfl
  · rw [pending, noCalls, Engine.respond, List.append_nil]
    rfl

theorem Steady.handled_network (steady : sitting.Steady engine config)
    (faithful : engine.Faithful) (orderly : engine.Orderly config.networkClass)
    {network : Network} {rows : List (List Arrival)}
    (row : sitting.pending.Perm (.network network :: rows.flatten))
    (ok : give engine host ⟨sitting.scene, rows⟩ (.event (.system (.networkAdded network))) =
      .ok next) : Handled sitting next := by
  have family : network.isMainnet = sitting.scene.registry.config.networkClass.isMainnet := by
    rw [steady.sound.registry.config]
    exact orderly.family network (steady.known network (row.symm.subset List.mem_cons_self))
  obtain ⟨session, opened⟩ := Option.ne_none_iff_exists'.1 fun none =>
    steady.initialized (steady.sound.registry.session.1 none)
  cases enlisted : sitting.scene.registry.enlist network [] network.currencies with
  | error broken =>
      have isBroken := Scene.networkAdded_of_error host steady.initialized family opened enlisted
      obtain ⟨effects, added, -⟩ :=
        steady.sound.after_given host (.event (.system (.networkAdded network)))
      obtain ⟨unbroken, -⟩ := give_ok ok added
      exact absurd (isBroken.symm.trans unbroken) (by simp)
  | ok made =>
      obtain ⟨mode, writes, alike, only, added, -⟩ := Scene.networkAdded_of_enlist host
        steady.sound.heard steady.initialized family opened enlisted
      have calls := Effect.filterMap_call?_of_writes only
        (.currenciesUpdated (sitting.scene.after host
          (.given (.event (.system (.networkAdded network))))).registry.currencyList)
        (.createManager network mode (made.map (·.uid)))
      obtain ⟨manager, wallets, reported, sameNetwork, uids⟩ := faithful.createManager
        sitting.scene.outside.calls network mode (made.map (·.uid))
      obtain ⟨-, rfl⟩ := give_ok ok added
      refine .network row enlisted alike ?_ sameNetwork uids ?_
      · rw [asked, added.asked, calls]
        rfl
      · rw [calls, pending, Engine.respond, Engine.respond, reported, List.append_nil,
          List.flatten_append, List.flatten_singleton]

theorem Steady.handled_manager (steady : sitting.Steady engine config)
    {manager : EngineManager} {rows : List (List Arrival)}
    (row : sitting.pending.Perm (.manager manager :: rows.flatten))
    (ok : give engine host ⟨sitting.scene, rows⟩ (.event (.system (.managerAdded manager))) =
      .ok next) : Handled sitting next := by
  obtain ⟨effects, added, quiet⟩ := steady.sound.quietly_managerAdded host manager
  obtain ⟨unbroken, scene, asked, pending⟩ :=
    give_ok_of_no_calls ok added (Effect.filterMap_call?_of_quiet quiet)
  by_cases mem : manager.network.id ∈ sitting.scene.registry.managers
  · have isBroken := Scene.managerAdded_of_mem host steady.initialized mem
    exact absurd (isBroken.symm.trans unbroken) (by simp)
  · refine .manager row mem ?_ asked pending
    rw [scene]
    exact (Scene.managerAdded_of_not_mem host steady.initialized mem).1

theorem Steady.handled_wallet (steady : sitting.Steady engine config)
    {manager : EngineManager} {wallet : EngineWallet} {rows : List (List Arrival)}
    (row : sitting.pending.Perm (.wallet manager wallet :: rows.flatten))
    (ok : give engine host ⟨sitting.scene, rows⟩ (.event (.manager manager (.walletAdded wallet))) =
      .ok next) : Handled sitting next := by
  obtain ⟨effects, added, outcome⟩ :=
    steady.sound.after_given host (.event (.manager manager (.walletAdded wallet)))
  have noCalls : effects.filterMap Effect.call? = [] := by
    generalize (sitting.scene.after host _).registry = registry at outcome
    cases outcome with
    | quiet _ quiet => exact Effect.filterMap_call?_of_quiet quiet
    | wallet => rfl
  obtain ⟨unbroken, scene, asked, pending⟩ := give_ok_of_no_calls ok added noCalls
  by_cases mem : wallet.currency.uid ∈ sitting.scene.registry.wallets
  · have isBroken := Scene.walletAdded_of_mem host manager steady.initialized mem
    exact absurd (isBroken.symm.trans unbroken) (by simp)
  cases known : sitting.scene.registry.currencies[wallet.currency.uid]? with
  | none =>
      have isBroken := Scene.walletAdded_of_unknown host manager steady.initialized mem known
      exact absurd (isBroken.symm.trans unbroken) (by simp)
  | some currency =>
      have added := (Scene.walletAdded_of_known host manager steady.initialized mem known).1
      rw [← scene] at added
      exact .wallet row mem added asked pending

theorem Steady.handled (steady : sitting.Steady engine config) (faithful : engine.Faithful)
    (orderly : engine.Orderly config.networkClass) {arrival : Arrival} {rows : List (List Arrival)}
    (row : sitting.pending.Perm (arrival :: rows.flatten))
    (ok : give engine host ⟨sitting.scene, rows⟩ (.event arrival.event) = .ok next) :
    Handled sitting next := by
  cases arrival with
  | network network => exact steady.handled_network faithful orderly row ok
  | manager manager => exact steady.handled_manager row ok
  | wallet manager wallet => exact steady.handled_wallet row ok

/-- Every move that is not the end is one of the cases. -/
theorem Steady.advance (steady : sitting.Steady engine config) (faithful : engine.Faithful)
    (orderly : engine.Orderly config.networkClass) {move : Move W}
    (ok : sitting.move engine host move = .ok next) : Advance engine host sitting move next := by
  cases move with
  | connect => exact steady.advance_connect faithful ok
  | disconnect => exact steady.advance_disconnect faithful ok
  | meanwhile world receipts =>
      obtain rfl := Except.ok.inj ok
      exact .still ⟨rfl, rfl, fun _ => .rfl⟩ rfl rfl rfl
  | report row =>
      rw [Sitting.move] at ok
      split at ok
      · rename_i arrival rest found
        exact .handled (steady.handled faithful orderly (perm_of_row found) ok)
      · obtain rfl := Except.ok.inj ok
        exact .still ⟨rfl, rfl, fun _ => .rfl⟩ rfl rfl rfl

end Moves

end Sitting

end MultiWallet
