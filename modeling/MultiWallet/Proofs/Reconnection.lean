import Mathlib.Algebra.Ring.Nat
import Mathlib.Data.List.Nodup
import Mathlib.Data.List.Pairwise
import MultiWallet.Proofs.Sitting

/-!
Reconnecting. The engine is asked again for every network that has no manager yet,
also for those that it was asked for before and whose reports are still to come.
Therefore no violation comes of the engine's reports exactly if every request to
connect that is carried out waits for the managers of what was asked for.
-/

namespace MultiWallet

open Outside

variable {W : Type}

/-! ### What is pending -/

namespace Arrival

/-- A manager is about its network, and its wallets about no other. -/
theorem filterMap_networkId?_manager (made : EngineManager) (wallets : List EngineWallet) :
    (manager made :: wallets.map (wallet made)).filterMap networkId? = [made.network.id] := by
  have none : (wallets.map (wallet made)).filterMap networkId? = [] := by
    rw [List.filterMap_map]
    exact List.filterMap_eq_nil_iff.2 fun _ _ => rfl
  change made.network.id :: (wallets.map (wallet made)).filterMap networkId? = _
  rw [none]

theorem filterMap_uid?_manager (made : EngineManager) (wallets : List EngineWallet) :
    (manager made :: wallets.map (wallet made)).filterMap uid? =
      wallets.map (·.currency.uid) := by
  change (wallets.map (wallet made)).filterMap uid? = _
  rw [List.filterMap_map]
  exact congrFun List.filterMap_eq_map wallets

theorem filterMap_networkId?_networks (networks : List Network) :
    (networks.map network).filterMap networkId? = networks.map (·.id) := by
  rw [List.filterMap_map]
  exact congrFun List.filterMap_eq_map networks

theorem filterMap_uid?_networks (networks : List Network) :
    (networks.map network).filterMap uid? = [] := by
  rw [List.filterMap_map]
  exact List.filterMap_eq_nil_iff.2 fun _ _ => rfl

/-- How many reports come of an arrival at least, itself included. -/
def weight : Arrival → Nat
  | network found => found.currencies.length + 2
  | manager _ | wallet _ _ => 1

theorem sum_weight_wallets (made : EngineManager) (wallets : List EngineWallet) :
    ((wallets.map (wallet made)).map weight).sum = wallets.length := by
  induction wallets with
  | nil => rfl
  | cons first rest ih =>
      rw [List.map_cons, List.map_cons, List.sum_cons, ih, List.length_cons, weight]
      omega

end Arrival

namespace Sitting

variable {engine : Engine} {config : Config} {host : Host W} {sitting next : Sitting W}

/-- The networks that are pending, or whose managers are. -/
def due (sitting : Sitting W) : List String := sitting.pending.filterMap Arrival.networkId?

/-- The currencies whose wallets are pending. -/
def dueWallets (sitting : Sitting W) : List CurrencyId := sitting.pending.filterMap Arrival.uid?

/-- How much more is to come. -/
def weight (sitting : Sitting W) : Nat := (sitting.pending.map Arrival.weight).sum

theorem due_perm {arrivals : List Arrival} (h : sitting.pending.Perm arrivals) :
    sitting.due.Perm (arrivals.filterMap Arrival.networkId?) :=
  h.filterMap _

theorem dueWallets_perm {arrivals : List Arrival} (h : sitting.pending.Perm arrivals) :
    sitting.dueWallets.Perm (arrivals.filterMap Arrival.uid?) :=
  h.filterMap _

theorem weight_eq {arrivals : List Arrival} (h : sitting.pending.Perm arrivals) :
    sitting.weight = (arrivals.map Arrival.weight).sum :=
  (h.map _).sum_nat

/-- The networks that a start adds to what is due. -/
theorem Started.due_perm (h : Started engine host sitting next) :
    next.due.Perm (sitting.due ++
      (engine.networks.filter (·.id ∈ sitting.scene.registry.undiscovered)).map (·.id)) := by
  have perm := Sitting.due_perm h.pending
  rwa [List.filterMap_append, Arrival.filterMap_networkId?_networks] at perm

theorem Started.dueWallets_perm (h : Started engine host sitting next) :
    next.dueWallets.Perm sitting.dueWallets := by
  have perm := Sitting.dueWallets_perm h.pending
  rwa [List.filterMap_append, Arrival.filterMap_uid?_networks, List.append_nil] at perm

/-- When a network is accepted, its manager becomes due in its place. -/
theorem due_perm_of_network {network : Network} {manager : EngineManager}
    {wallets : List EngineWallet} {rest : List Arrival}
    (row : sitting.pending.Perm (.network network :: rest))
    (same : manager.network.id = network.id)
    (pending : next.pending = rest ++ .manager manager :: wallets.map (.wallet manager)) :
    next.due.Perm sitting.due := by
  have now : next.due = rest.filterMap Arrival.networkId? ++ [network.id] := by
    rw [due, pending, List.filterMap_append, Arrival.filterMap_networkId?_manager, same]
  rw [now]
  exact (List.perm_append_singleton _ _).trans (due_perm row).symm

/-- How often a network is due, the registered manager included. -/
def tally (sitting : Sitting W) (id : String) : Nat :=
  sitting.due.count id + if id ∈ sitting.scene.registry.managers then 1 else 0

theorem Handled.asked (h : Handled sitting next) : next.asked = sitting.asked := by
  cases h <;> assumption

theorem Handled.weight_lt (h : Handled sitting next) : next.weight < sitting.weight := by
  cases h with
  | @network network made manager wallets rest row enlisted _ _ _ uids pending =>
      have lengths : wallets.length = network.currencies.length := by
        obtain ⟨_, rfl, same, -⟩ := Registry.enlist_ok enlisted
        have first := uids.length_eq
        have second := congrArg List.length same
        simp only [List.length_map] at first second
        exact first.trans second
      rw [weight, pending, weight_eq row, List.map_append, List.sum_append_nat, List.map_cons,
        List.map_cons, List.sum_cons, List.sum_cons, Arrival.sum_weight_wallets, Arrival.weight,
        Arrival.weight]
      omega
  | manager row _ _ _ pending | wallet row _ _ _ pending =>
      rw [weight, pending, weight_eq row, List.map_cons, List.sum_cons, Arrival.weight]
      omega

/-- A report that is handled keeps the tally of every network. -/
theorem Handled.tally_eq (h : Handled sitting next) (id : String) :
    next.tally id = sitting.tally id := by
  cases h with
  | network row _ alike _ same _ pending =>
      rw [tally, tally, (due_perm_of_network row same pending).count_eq, alike.managers]
      rfl
  | @manager manager rest row absent registry _ pending =>
      have before := (due_perm row).count_eq id
      change _ = (manager.network.id :: rest.filterMap Arrival.networkId?).count id at before
      rw [tally, tally, due, pending, before, registry]
      by_cases same : manager.network.id = id
      · subst same
        simp [absent]
      · simp [List.count_cons_of_ne same, Std.ExtTreeMap.mem_insert, same]
  | wallet row _ registry _ pending =>
      have before := (due_perm row).count_eq id
      rw [tally, tally, due, pending, before, registry]
      rfl

theorem Started.tally_eq (h : Started engine host sitting next) (id : String) :
    next.tally id = sitting.tally id + ((engine.networks.filter
      (·.id ∈ sitting.scene.registry.undiscovered)).map (·.id)).count id := by
  rw [tally, tally, h.due_perm.count_eq, List.count_append, h.same.managers]
  omega

/-! ### What holds of all moves -/

theorem mem_undiscovered {registry : Registry} {id : String} :
    id ∈ registry.undiscovered ↔
      id ∈ registry.config.requiredNetworks ∧ id ∉ registry.managers := by
  rw [Registry.undiscovered, List.mem_filter, Bool.not_eq_true', ← Bool.not_eq_true,
    Std.ExtTreeMap.contains_iff_mem]

theorem mem_filter_undiscovered {registry : Registry} {network : Network} :
    network ∈ engine.networks.filter (·.id ∈ registry.undiscovered) ↔
      network ∈ engine.networks ∧ network.id ∈ registry.undiscovered := by
  rw [List.mem_filter, decide_eq_true_iff]

theorem scene_of_give {input : Input} (ok : sitting.give engine host input = .ok next) :
    next.scene = sitting.scene.after host (.given input) := by
  rw [give] at ok
  split at ok
  · cases ok
  · exact congrArg scene (Except.ok.inj ok).symm

/-- A move is something that happens to the scene, if anything, but no shutdown. -/
theorem scene_of_move {move : Move W} (ok : sitting.move engine host move = .ok next) :
    next.scene = sitting.scene ∨ ∃ happening, happening ≠ .given (.command .shutdown) ∧
      next.scene = sitting.scene.after host happening := by
  cases move with
  | connect => exact .inr ⟨.given (.command .connect), by rintro ⟨⟩, scene_of_give ok⟩
  | disconnect => exact .inr ⟨.given (.command .disconnect), by rintro ⟨⟩, scene_of_give ok⟩
  | report row =>
      rw [Sitting.move] at ok
      split at ok
      · rename_i arrival rest _
        have given := scene_of_give ok
        exact .inr ⟨.given (.event arrival.event), by rintro ⟨⟩, given⟩
      · exact .inl (congrArg scene (Except.ok.inj ok).symm)
  | meanwhile world receipts =>
      refine .inr ⟨.meanwhile world receipts, ?_, congrArg scene (Except.ok.inj ok).symm⟩
      rintro ⟨⟩

theorem Steady.move (steady : sitting.Steady engine config) {move : Move W}
    (ok : sitting.move engine host move = .ok next)
    (advance : Advance engine host sitting move next) : next.Steady engine config := by
  obtain ⟨sound, initialized⟩ : next.scene.Sound config ∧
      next.scene.registry.lifecycle ≠ .uninitialized := by
    rcases scene_of_move ok with same | ⟨happening, other, same⟩
    · rw [same]
      exact ⟨steady.sound, steady.initialized⟩
    · rw [same]
      exact ⟨steady.sound.after host happening,
        steady.sound.initialized_after host steady.initialized other⟩
  refine ⟨sound, initialized, fun found mem => ?_, fun id mem => ?_⟩
  · have rest {arrival : Arrival} {rest : List Arrival}
        (row : sitting.pending.Perm (arrival :: rest)) (mem : .network found ∈ rest) :
        found ∈ engine.networks :=
      steady.known found (row.symm.subset (List.mem_cons_of_mem arrival mem))
    cases advance with
    | still _ _ _ pending =>
        rw [pending] at mem
        exact steady.known found mem
    | started _ started =>
        rcases List.mem_append.1 (started.pending.subset mem) with mem | mem
        · exact steady.known found mem
        · obtain ⟨network, mem, same⟩ := List.mem_map.1 mem
          cases same
          exact (mem_filter_undiscovered.1 mem).1
    | handled handled =>
        cases handled with
        | network row _ _ _ _ _ pending =>
            rw [pending] at mem
            rcases List.mem_append.1 mem with mem | mem
            · exact rest row mem
            · simp at mem
        | manager row _ _ _ pending | wallet row _ _ _ pending =>
            rw [pending] at mem
            exact rest row mem
  · cases advance with
    | still _ _ asked _ =>
        rw [asked] at mem
        exact steady.required id mem
    | started _ started =>
        rw [started.asked] at mem
        rcases List.mem_append.1 mem with mem | mem
        · exact steady.required id mem
        · rw [← steady.sound.registry.config]
          exact (mem_undiscovered.1 mem).1
    | handled handled =>
        rw [handled.asked] at mem
        exact steady.required id mem

/-! ### Patience -/

/-- The engine was asked for a network that it knows and that has no manager yet. -/
def Awaits (engine : Engine) (sitting : Sitting W) : Prop :=
  ∃ network ∈ engine.networks,
    network.id ∈ sitting.asked ∧ network.id ∉ sitting.scene.registry.managers

/-- Whenever a request to connect is carried out in the course of some moves, nothing
is awaited. -/
def Patient (engine : Engine) (host : Host W) (sitting : Sitting W) (moves : List (Move W)) :
    Prop :=
  ∀ earlier later next, moves = earlier ++ .connect :: later →
    sitting.play engine host earlier = .ok next →
    (next.scene.turn host (.command .connect)).answer = .ok .done → ¬next.Awaits engine

/-- What holds of a sitting as long as moves are patient. -/
structure Calm (engine : Engine) (sitting : Sitting W) : Prop where
  /-- No network is due twice. -/
  once : sitting.due.Nodup
  awaited : ∀ id ∈ sitting.due, id ∈ sitting.asked ∧ id ∉ sitting.scene.registry.managers ∧
    ∃ network ∈ engine.networks, network.id = id
  /-- The currencies of a network are new until it is reported. -/
  fresh : ∀ network ∈ engine.networks,
    network.id ∉ sitting.asked ∨ .network network ∈ sitting.pending →
      ∀ core ∈ network.currencies, core.uid ∉ sitting.scene.registry.currencies
  walletsOnce : sitting.dueWallets.Nodup
  expected : ∀ uid ∈ sitting.dueWallets,
    uid ∈ sitting.scene.registry.currencies ∧ uid ∉ sitting.scene.registry.wallets
  described : ∀ network, .network network ∈ sitting.pending →
    ∀ core ∈ network.currencies, sitting.scene.registry.catalog.contains core.uid

theorem Calm.due_eq_nil (calm : sitting.Calm engine) (settled : ¬sitting.Awaits engine) :
    sitting.due = [] := by
  refine List.eq_nil_iff_forall_not_mem.2 fun id mem => settled ?_
  obtain ⟨asked, absent, network, known, rfl⟩ := calm.awaited id mem
  exact ⟨network, known, asked, absent⟩

theorem not_network_of_due_eq_nil (none : sitting.due = []) (network : Network) :
    .network network ∉ sitting.pending := by
  intro mem
  have due : network.id ∈ sitting.due := List.mem_filterMap.2 ⟨_, mem, rfl⟩
  rw [none] at due
  cases due

/-- A start is safe when nothing is awaited. -/
theorem Calm.of_started (calm : sitting.Calm engine) (orderly : engine.Orderly config.networkClass)
    (described : engine.Described host) (settled : ¬sitting.Awaits engine)
    (h : Started engine host sitting next) : next.Calm engine := by
  have none := calm.due_eq_nil settled
  have due := h.due_perm
  rw [none, List.nil_append] at due
  have discovered {network : Network} (mem : .network network ∈ next.pending) :
      network ∈ engine.networks ∧ network.id ∈ sitting.scene.registry.undiscovered := by
    rcases List.mem_append.1 (h.pending.subset mem) with mem | mem
    · exact absurd mem (not_network_of_due_eq_nil none network)
    · obtain ⟨other, mem, same⟩ := List.mem_map.1 mem
      cases same
      exact mem_filter_undiscovered.1 mem
  constructor
  · exact due.nodup_iff.2 (orderly.ids.sublist (List.filter_sublist.map _))
  · intro id isDue
    obtain ⟨network, mem, rfl⟩ := List.mem_map.1 (due.subset isDue)
    obtain ⟨known, undiscovered⟩ := mem_filter_undiscovered.1 mem
    rw [h.asked, h.same.managers]
    exact ⟨List.mem_append_right _ undiscovered, (mem_undiscovered.1 undiscovered).2,
      network, known, rfl⟩
  · intro network known isNew core mem
    rw [h.same.currencies]
    refine calm.fresh network known (.inl fun asked => ?_) core mem
    -- A network that was asked for has its manager, so that it is not asked for again.
    rcases isNew with notAsked | pending
    · rw [h.asked] at notAsked
      exact notAsked (List.mem_append_left _ asked)
    · exact settled ⟨network, known, asked, (mem_undiscovered.1 (discovered pending).2).2⟩
  · exact h.dueWallets_perm.nodup_iff.2 calm.walletsOnce
  · intro uid mem
    rw [h.same.currencies, h.same.wallets]
    exact calm.expected uid (h.dueWallets_perm.subset mem)
  · intro network mem core coreMem
    obtain ⟨world, refreshed⟩ := h.refreshed
    exact described world _ refreshed network (discovered mem).1 core coreMem

/-- No currency is one of two networks. -/
theorem eq_of_shared_currency (orderly : engine.Orderly config.networkClass)
    {network other : Network} (known : network ∈ engine.networks)
    (known' : other ∈ engine.networks) {uid : CurrencyId}
    (mem : uid ∈ network.currencies.map (·.uid)) (mem' : uid ∈ other.currencies.map (·.uid)) :
    network = other := by
  refine Classical.byContradiction fun apart => ?_
  have disjoint := (List.nodup_flatMap.1 orderly.currencies).2
  have : Std.Symm (Function.onFun List.Disjoint fun network : Network =>
      network.currencies.map (·.uid)) := ⟨fun _ _ h _ mem mem' => h mem' mem⟩
  exact disjoint.forall known known' apart mem mem'

/-- An accepted network leaves nothing that could come twice. -/
theorem Calm.of_network (calm : sitting.Calm engine) (steady : sitting.Steady engine config)
    (orderly : engine.Orderly config.networkClass) {network : Network} {made : List Currency}
    {manager : EngineManager} {wallets : List EngineWallet} {rest : List Arrival}
    (row : sitting.pending.Perm (.network network :: rest))
    (enlisted : sitting.scene.registry.enlist network [] network.currencies = .ok made)
    (alike : Registry.Alike (sitting.scene.registry.register made) next.scene.registry)
    (asked : next.asked = sitting.asked) (same : manager.network.id = network.id)
    (uids : (wallets.map (·.currency.uid)).Perm (made.map (·.uid)))
    (pending : next.pending = rest ++ .manager manager :: wallets.map (.wallet manager)) :
    next.Calm engine := by
  have inPending := row.symm.subset List.mem_cons_self
  have known := steady.known network inPending
  have isNew := calm.fresh network known (.inr inPending)
  have due := due_perm_of_network row same pending
  have dueNow := due_perm row
  have walletsNow := dueWallets_perm row
  change sitting.due.Perm (network.id :: rest.filterMap Arrival.networkId?) at dueNow
  change sitting.dueWallets.Perm (rest.filterMap Arrival.uid?) at walletsNow
  have once := List.nodup_cons.1 (dueNow.nodup_iff.1 calm.once)
  have networkDue : network.id ∈ sitting.due := dueNow.symm.subset List.mem_cons_self
  have madeUids : made.map (·.uid) = network.currencies.map (·.uid) := by
    obtain ⟨_, rfl, uids, -⟩ := Registry.enlist_ok enlisted
    exact uids
  have newUid {uid : CurrencyId} (mem : uid ∈ made.map (·.uid)) :
      uid ∉ sitting.scene.registry.currencies := by
    rw [madeUids] at mem
    obtain ⟨core, listed, rfl⟩ := List.mem_map.1 mem
    exact isNew core listed
  have inRest {found : Network} (mem : .network found ∈ next.pending) : .network found ∈ rest := by
    rw [pending] at mem
    rcases List.mem_append.1 mem with mem | mem
    · exact mem
    · simp at mem
  have walletsAfter : next.dueWallets =
      rest.filterMap Arrival.uid? ++ wallets.map (·.currency.uid) := by
    rw [dueWallets, pending, List.filterMap_append, Arrival.filterMap_uid?_manager]
  constructor
  · exact due.nodup_iff.2 calm.once
  · intro id mem
    rw [asked, alike.managers]
    exact calm.awaited id (due.subset mem)
  · intro other known' isNew' core mem registered
    rw [asked] at isNew'
    rw [alike.currencies, Registry.mem_register, madeUids] at registered
    rcases registered with shared | old
    · -- Whose currency is shared is the accepted network itself, and that is not new.
      obtain rfl := eq_of_shared_currency orderly known known' shared
        (List.mem_map.2 ⟨core, mem, rfl⟩)
      rcases isNew' with notAsked | again
      · exact notAsked (calm.awaited _ networkDue).1
      · exact once.1 (List.mem_filterMap.2 ⟨_, inRest again, rfl⟩)
    · refine calm.fresh other known' (isNew'.imp_right fun mem => ?_) core mem old
      exact row.symm.subset (List.mem_cons_of_mem _ (inRest mem))
  · rw [walletsAfter, List.nodup_append]
    refine ⟨walletsNow.nodup_iff.1 calm.walletsOnce, ?_, ?_⟩
    · rw [uids.nodup_iff, madeUids]
      exact (List.nodup_flatMap.1 orderly.currencies).1 network known
    · rintro uid mem _ mem' rfl
      exact newUid (uids.subset mem') (calm.expected uid (walletsNow.symm.subset mem)).1
  · intro uid mem
    rw [alike.currencies, Registry.mem_register, alike.mem_wallets]
    rw [walletsAfter] at mem
    rcases List.mem_append.1 mem with mem | mem
    · obtain ⟨registered, noWallet⟩ := calm.expected uid (walletsNow.symm.subset mem)
      exact ⟨.inr registered, noWallet⟩
    · refine ⟨.inl (uids.subset mem), fun hasWallet => ?_⟩
      obtain ⟨controller, found⟩ := Table.mem_iff_exists.1 hasWallet
      exact newUid (uids.subset mem)
        (Table.mem_iff_exists.2 ⟨_, steady.sound.registry.enrolled uid controller found⟩)
  · intro other mem
    rw [alike.catalog]
    exact calm.described other (row.symm.subset (List.mem_cons_of_mem _ (inRest mem)))

theorem Calm.of_manager (calm : sitting.Calm engine) {manager : EngineManager}
    {rest : List Arrival} (row : sitting.pending.Perm (.manager manager :: rest))
    (registry : next.scene.registry = { sitting.scene.registry with
      managers := sitting.scene.registry.managers.insert manager.network.id manager })
    (asked : next.asked = sitting.asked) (pending : next.pending = rest) : next.Calm engine := by
  subst pending
  have due := due_perm row
  change sitting.due.Perm (manager.network.id :: next.due) at due
  have once := List.nodup_cons.1 (due.nodup_iff.1 calm.once)
  have wallets := dueWallets_perm row
  change sitting.dueWallets.Perm next.dueWallets at wallets
  have before {network : Network} (mem : .network network ∈ next.pending) :
      .network network ∈ sitting.pending :=
    row.symm.subset (List.mem_cons_of_mem _ mem)
  constructor
  · exact once.2
  · intro id mem
    have wasDue : id ∈ sitting.due := due.symm.subset (List.mem_cons_of_mem _ mem)
    obtain ⟨wasAsked, absent, known⟩ := calm.awaited id wasDue
    rw [asked, registry]
    refine ⟨wasAsked, fun registered => ?_, known⟩
    rcases Std.ExtTreeMap.mem_insert.1 registered with same | registered
    · rw [← Std.LawfulEqOrd.eq_of_compare same] at mem
      exact once.1 mem
    · exact absent registered
  · intro network known isNew
    rw [asked] at isNew
    rw [registry]
    exact calm.fresh network known (isNew.imp_right before)
  · exact wallets.nodup_iff.1 calm.walletsOnce
  · intro uid mem
    rw [registry]
    exact calm.expected uid (wallets.symm.subset mem)
  · intro network mem
    rw [registry]
    exact calm.described network (before mem)

theorem Calm.of_wallet (calm : sitting.Calm engine) {manager : EngineManager}
    {wallet : EngineWallet} {currency : Currency} {rest : List Arrival}
    (row : sitting.pending.Perm (.wallet manager wallet :: rest))
    (registry : next.scene.registry = sitting.scene.registry.withWallet wallet.currency.uid
      (.fresh currency wallet manager))
    (asked : next.asked = sitting.asked) (pending : next.pending = rest) : next.Calm engine := by
  subst pending
  have due := due_perm row
  change sitting.due.Perm next.due at due
  have wallets := dueWallets_perm row
  change sitting.dueWallets.Perm (wallet.currency.uid :: next.dueWallets) at wallets
  have once := List.nodup_cons.1 (wallets.nodup_iff.1 calm.walletsOnce)
  have before {network : Network} (mem : .network network ∈ next.pending) :
      .network network ∈ sitting.pending :=
    row.symm.subset (List.mem_cons_of_mem _ mem)
  constructor
  · exact due.nodup_iff.1 calm.once
  · intro id mem
    rw [asked, registry]
    exact calm.awaited id (due.symm.subset mem)
  · intro network known isNew
    rw [asked] at isNew
    rw [registry]
    exact calm.fresh network known (isNew.imp_right before)
  · exact once.2
  · intro uid mem
    obtain ⟨registered, absent⟩ :=
      calm.expected uid (wallets.symm.subset (List.mem_cons_of_mem _ mem))
    rw [registry]
    refine ⟨registered, fun hasWallet => ?_⟩
    rcases Std.ExtTreeMap.mem_insert.1 hasWallet with same | hasWallet
    · rw [← Std.LawfulEqOrd.eq_of_compare same] at mem
      exact once.1 mem
    · exact absent hasWallet
  · intro network mem
    rw [registry]
    exact calm.described network (before mem)

theorem Calm.of_handled (calm : sitting.Calm engine) (steady : sitting.Steady engine config)
    (orderly : engine.Orderly config.networkClass) (h : Handled sitting next) :
    next.Calm engine := by
  cases h with
  | network row enlisted alike asked same uids pending =>
      exact calm.of_network steady orderly row enlisted alike asked same uids pending
  | manager row _ registry asked pending => exact calm.of_manager row registry asked pending
  | wallet row _ registry asked pending => exact calm.of_wallet row registry asked pending

theorem Calm.of_still (calm : sitting.Calm engine)
    (same : SameTables sitting.scene.registry next.scene.registry)
    (catalog : next.scene.registry.catalog = sitting.scene.registry.catalog)
    (asked : next.asked = sitting.asked) (pending : next.pending = sitting.pending) :
    next.Calm engine := by
  have due : next.due = sitting.due := congrArg (List.filterMap Arrival.networkId?) pending
  have wallets : next.dueWallets = sitting.dueWallets :=
    congrArg (List.filterMap Arrival.uid?) pending
  constructor
  · rw [due]
    exact calm.once
  · rw [due, asked, same.managers]
    exact calm.awaited
  · rw [asked, pending, same.currencies]
    exact calm.fresh
  · rw [wallets]
    exact calm.walletsOnce
  · intro uid mem
    rw [wallets] at mem
    rw [same.currencies, same.wallets]
    exact calm.expected uid mem
  · rw [pending, catalog]
    exact calm.described

/-! ### Patient moves are safe -/

/-- The next report of an engine breaks no invariant. -/
theorem Calm.unbroken (calm : sitting.Calm engine) (steady : sitting.Steady engine config)
    (orderly : engine.Orderly config.networkClass) (host : Host W) {arrival : Arrival}
    (mem : arrival ∈ sitting.pending) : sitting.scene.broken? host arrival.event = none := by
  cases arrival with
  | network network =>
      have known := steady.known network mem
      have family : network.isMainnet = sitting.scene.registry.config.networkClass.isMainnet := by
        rw [steady.sound.registry.config]
        exact orderly.family network known
      obtain ⟨session, opened⟩ := Option.ne_none_iff_exists'.1 fun none =>
        steady.initialized (steady.sound.registry.session.1 none)
      obtain ⟨made, enlisted⟩ :
          ∃ made, sitting.scene.registry.enlist network [] network.currencies = .ok made :=
        Registry.exists_enlist (calm.described network mem) (orderly.units network known)
          (calm.fresh network known (.inr mem))
          ((List.nodup_flatMap.1 orderly.currencies).1 network known)
      obtain ⟨_, _, _, _, _, unbroken⟩ := Scene.networkAdded_of_enlist host steady.sound.heard
        steady.initialized family opened enlisted
      exact unbroken
  | manager manager =>
      have absent := (calm.awaited _ (List.mem_filterMap.2 ⟨_, mem, rfl⟩)).2.1
      exact (Scene.managerAdded_of_not_mem host steady.initialized absent).2
  | wallet manager wallet =>
      obtain ⟨registered, absent⟩ := calm.expected _ (List.mem_filterMap.2 ⟨_, mem, rfl⟩)
      obtain ⟨currency, known⟩ := Table.mem_iff_exists.1 registered
      exact (Scene.walletAdded_of_known host manager steady.initialized absent known).2

theorem Calm.exists_move (calm : sitting.Calm engine) (steady : sitting.Steady engine config)
    (orderly : engine.Orderly config.networkClass) (host : Host W) (move : Move W) :
    ∃ next, sitting.move engine host move = .ok next := by
  cases move with
  | connect | disconnect => exact give_of_unbroken engine (Queue.fatal?_command _ _)
  | meanwhile => exact ⟨_, rfl⟩
  | report row =>
      rw [Sitting.move]
      split
      · rename_i arrival rest found
        have mem : arrival ∈ sitting.pending := (perm_of_row found).symm.subset List.mem_cons_self
        exact give_of_unbroken engine (calm.unbroken steady orderly host mem)
      · exact ⟨_, rfl⟩

theorem Calm.exists_play (faithful : engine.Faithful)
    (orderly : engine.Orderly config.networkClass) (described : engine.Described host)
    (calm : sitting.Calm engine) (steady : sitting.Steady engine config) {moves : List (Move W)}
    (patient : sitting.Patient engine host moves) :
    ∃ next, sitting.play engine host moves = .ok next := by
  induction moves generalizing sitting with
  | nil => exact ⟨sitting, rfl⟩
  | cons move rest ih =>
      obtain ⟨next, ok⟩ := calm.exists_move steady orderly host move
      have advance := steady.advance faithful orderly ok
      rw [play_cons_ok ok]
      have calm' : next.Calm engine := by
        cases advance with
        | still same catalog asked pending => exact calm.of_still same catalog asked pending
        | started done started =>
            exact calm.of_started orderly described (patient [] rest sitting rfl rfl done) started
        | handled handled => exact calm.of_handled steady orderly handled
      refine ih calm' (steady.move ok advance) fun earlier later last split played => ?_
      refine patient (move :: earlier) later last ?_ ((play_cons_ok ok earlier).trans played)
      rw [split, List.cons_append]

/-! ### Impatient moves are not -/

theorem Advance.tally_le {move : Move W} (h : Advance engine host sitting move next)
    (id : String) : sitting.tally id ≤ next.tally id := by
  cases h with
  | still same _ _ pending =>
      have eq : sitting.tally id = next.tally id := by
        rw [tally, tally, due, due, pending, same.managers]
      exact Nat.le_of_eq eq
  | started _ started =>
      rw [started.tally_eq]
      exact Nat.le_add_right _ _
  | handled handled => exact Nat.le_of_eq (handled.tally_eq id).symm

/-- Every network that the engine knows and was asked for is due, unless its manager
is there. -/
def Owes (engine : Engine) (sitting : Sitting W) : Prop :=
  ∀ network ∈ engine.networks, network.id ∈ sitting.asked → 1 ≤ sitting.tally network.id

theorem one_le_count_of_undiscovered {registry : Registry} {network : Network}
    (known : network ∈ engine.networks) (undiscovered : network.id ∈ registry.undiscovered) :
    1 ≤ ((engine.networks.filter (·.id ∈ registry.undiscovered)).map (·.id)).count
      network.id := by
  refine List.one_le_count_iff.2 (List.mem_map.2 ⟨network, ?_, rfl⟩)
  exact mem_filter_undiscovered.2 ⟨known, undiscovered⟩

theorem Owes.move {move : Move W} (owes : sitting.Owes engine)
    (h : Advance engine host sitting move next) : next.Owes engine := by
  intro network known asked
  have grows := h.tally_le network.id
  cases h with
  | still _ _ sameAsked _ =>
      rw [sameAsked] at asked
      exact Nat.le_trans (owes network known asked) grows
  | started done started =>
      rw [started.tally_eq]
      rw [started.asked] at asked
      rcases List.mem_append.1 asked with asked | undiscovered
      · have before := owes network known asked
        omega
      · have added := one_le_count_of_undiscovered known undiscovered
        omega
  | handled handled =>
      rw [handled.asked] at asked
      rw [handled.tally_eq]
      exact owes network known asked

theorem play_cons_inv {move : Move W} {rest : List (Move W)}
    (ok : sitting.play engine host (move :: rest) = .ok next) :
    ∃ middle, sitting.move engine host move = .ok middle ∧
      middle.play engine host rest = .ok next := by
  rw [play, List.foldlM_cons] at ok
  cases first : sitting.move engine host move with
  | error broken =>
      rw [first] at ok
      cases ok
  | ok middle =>
      rw [first] at ok
      exact ⟨middle, rfl, ok⟩

/-- What a whole row of moves keeps, and that no tally falls. -/
theorem Steady.play (faithful : engine.Faithful) (orderly : engine.Orderly config.networkClass)
    (steady : sitting.Steady engine config) (owes : sitting.Owes engine) {moves : List (Move W)}
    (ok : sitting.play engine host moves = .ok next) :
    next.Steady engine config ∧ next.Owes engine ∧ ∀ id, sitting.tally id ≤ next.tally id := by
  induction moves generalizing sitting with
  | nil =>
      obtain rfl := Except.ok.inj ok
      exact ⟨steady, owes, fun _ => Nat.le_refl _⟩
  | cons move rest ih =>
      obtain ⟨middle, first, ok⟩ := play_cons_inv ok
      have advance := steady.advance faithful orderly first
      obtain ⟨steady', owes', grows⟩ := ih (steady.move first advance) (owes.move advance) ok
      exact ⟨steady', owes', fun id => Nat.le_trans (advance.tally_le id) (grows id)⟩

theorem exists_row_of_pending (h : sitting.pending ≠ []) :
    ∃ (row : Nat) (arrival : Arrival) (rest : List Arrival),
      sitting.rows[row]? = some (arrival :: rest) := by
  obtain ⟨arrival, mem⟩ := List.exists_mem_of_ne_nil _ h
  obtain ⟨list, mem, listed⟩ := List.mem_flatten.1 mem
  obtain ⟨row, found⟩ := List.mem_iff_getElem?.1 mem
  cases list with
  | nil => cases listed
  | cons first rest => exact ⟨row, first, rest, found⟩

/-- If all that is still to be reported can be handled, then no network is due twice:
the second of its managers would be one too many. -/
theorem Steady.tally_le_one (faithful : engine.Faithful)
    (orderly : engine.Orderly config.networkClass) (steady : sitting.Steady engine config)
    (ok : ∀ rows : List Nat, ∃ next, sitting.play engine host (rows.map .report) = .ok next)
    (id : String) : sitting.tally id ≤ 1 := by
  -- The induction is on how much is still to come.
  induction h : sitting.weight using Nat.strongRecOn generalizing sitting with
  | ind weight ih =>
      by_cases idle : sitting.pending = []
      · rw [tally, due, idle]
        split <;> simp
      · obtain ⟨row, arrival, rest, found⟩ := exists_row_of_pending idle
        obtain ⟨last, played⟩ := ok [row]
        obtain ⟨next, first, -⟩ := play_cons_inv played
        have handled : Handled sitting next := by
          have given := first
          rw [Sitting.move, found] at given
          exact steady.handled faithful orderly (perm_of_row found) given
        have steady' := steady.move first (.handled handled)
        rw [← handled.tally_eq id]
        refine ih next.weight (h ▸ handled.weight_lt) steady' (fun rows => ?_) rfl
        obtain ⟨last, played⟩ := ok (row :: rows)
        exact ⟨last, (play_cons_ok first _).symm.trans played⟩

/-- The same holds while some more moves are to come. -/
theorem Steady.tally_le_one_of_play (faithful : engine.Faithful)
    (orderly : engine.Orderly config.networkClass) (steady : sitting.Steady engine config)
    (owes : sitting.Owes engine) {moves : List (Move W)}
    (ok : ∀ rows : List Nat, ∃ last,
      sitting.play engine host (moves ++ rows.map .report) = .ok last)
    (id : String) : sitting.tally id ≤ 1 := by
  obtain ⟨next, played⟩ := ok []
  rw [List.map_nil, List.append_nil] at played
  obtain ⟨steady', -, grows⟩ := steady.play faithful orderly owes played
  have reported (rows : List Nat) :
      ∃ last, next.play engine host (rows.map .report) = .ok last := by
    obtain ⟨last, reported⟩ := ok rows
    exact ⟨last, (play_append_ok played _).symm.trans reported⟩
  exact Nat.le_trans (grows id) (steady'.tally_le_one faithful orderly reported id)

/-- A request to connect that is carried out while something is awaited has a network
due twice. -/
theorem Steady.two_le_tally (steady : sitting.Steady engine config) (owes : sitting.Owes engine)
    (started : Started engine host sitting next) (awaits : sitting.Awaits engine) :
    ∃ id, 2 ≤ next.tally id := by
  obtain ⟨network, known, asked, absent⟩ := awaits
  have required := steady.required network.id asked
  rw [← steady.sound.registry.config] at required
  have before := owes network known asked
  have added := one_le_count_of_undiscovered known (mem_undiscovered.2 ⟨required, absent⟩)
  refine ⟨network.id, ?_⟩
  rw [started.tally_eq]
  omega

/-! ### Sessions from their beginning -/

/-- A session right after its creation, without anything that its engine reports. -/
def opening (host : Host W) (scene : Scene W) (account : String) : Sitting W :=
  ⟨scene.after host (.given (.command (.create account))), []⟩

/-- A session begins with nothing registered and nothing asked for. -/
theorem opening_starts {scene : Scene W} (sound : scene.Sound config) {account : String}
    (created : (scene.turn host (.command (.create account))).answer = .ok .done) :
    (opening host scene account).asked = [] ∧
      (opening host scene account).scene.registry.lifecycle ≠ .uninitialized ∧
      (opening host scene account).scene.registry.currencies = ∅ := by
  obtain ⟨closed, idle⟩ := (Scene.create_cases host scene account).elim And.right
    fun failed => absurd created failed.1
  obtain ⟨effects, added, outcome⟩ := sound.after_given host (.command (.create account))
  have vacant := (sound.registry.vacant closed).1
  rw [asked, opening]
  dsimp only
  rw [added.asked]
  change (scene.after host (.given (.command (.create account)))).registry.lifecycle = _ at idle
  generalize (scene.after host (.given (.command (.create account)))).registry = registry
    at outcome idle ⊢
  refine ⟨?_, ?_, ?_⟩
  · cases outcome with
    | quiet alike =>
        exact Lifecycle.noConfusion ((alike.lifecycle.trans closed).symm.trans idle)
    | asked => rfl
  · rw [idle]
    decide
  · cases outcome with
    | quiet alike => exact alike.currencies.trans vacant
    | asked _ made =>
        rcases made with rfl | ⟨session, rfl⟩
        · exact vacant
        · exact vacant

/-- The engine has nothing to report and owes nothing in the beginning. -/
theorem opening_calm {scene : Scene W} (sound : scene.Sound config) {account : String}
    (created : (scene.turn host (.command (.create account))).answer = .ok .done) :
    (opening host scene account).Steady engine config ∧
      (opening host scene account).Calm engine ∧ (opening host scene account).Owes engine := by
  obtain ⟨notAsked, initialized, vacant⟩ := opening_starts sound created
  have idle : (opening host scene account).pending = [] := rfl
  have soundThen := sound.after host (.given (.command (.create account)))
  refine ⟨⟨soundThen, initialized, ?_, ?_⟩, ⟨?_, ?_, ?_, ?_, ?_, ?_⟩, ?_⟩
  · intro network mem
    rw [idle] at mem
    cases mem
  · intro id mem
    rw [notAsked] at mem
    cases mem
  · exact List.nodup_nil
  · exact fun id mem => nomatch mem
  · intro network _ _ core _ mem
    rw [vacant] at mem
    exact Std.ExtTreeMap.not_mem_empty mem
  · exact List.nodup_nil
  · exact fun uid mem => nomatch mem
  · intro network mem
    rw [idle] at mem
    cases mem
  · intro network _ asked
    rw [notAsked] at asked
    cases asked

end Sitting

/-- In a session that was just created, let an engine report what it is asked for, of
networks that have nothing in common and whose currencies the catalog describes. Then,
after any connecting and disconnecting and with any reports handled in between, none
of the reports ends in a violation, now or later, exactly if every request to connect
that was carried out found the managers there of all that had been asked for. -/
theorem reports_unbroken_iff_patient (engine : Engine) (host : Host W) (config : Config)
    (world : W) (before : List (Happening W)) (account : String) (moves : List (Move W))
    (faithful : engine.Faithful) (orderly : engine.Orderly config.networkClass)
    (described : engine.Described host)
    (created : (((Scene.first config world).run host before).turn host
      (.command (.create account))).answer = .ok .done) :
    let start := Sitting.opening host ((Scene.first config world).run host before) account
    (∀ rows : List Nat, ∃ last, start.play engine host (moves ++ rows.map .report) = .ok last) ↔
      start.Patient engine host moves := by
  intro start
  have sound : ((Scene.first config world).run host before).Sound config :=
    (Scene.Sound.first config world).run host before
  obtain ⟨steady, calm, owes⟩ : start.Steady engine config ∧ start.Calm engine ∧
      start.Owes engine := Sitting.opening_calm sound created
  constructor
  · intro ok earlier later next split played done awaits
    subst split
    have carriedOn (rows : List Nat) : ∃ last,
        next.play engine host (.connect :: (later ++ rows.map .report)) = .ok last := by
      obtain ⟨last, played'⟩ := ok rows
      rw [List.append_assoc, Sitting.play_append_ok played] at played'
      exact ⟨last, played'⟩
    obtain ⟨_, played'⟩ := carriedOn []
    obtain ⟨middle, moved, -⟩ := Sitting.play_cons_inv played'
    obtain ⟨steady', owes', -⟩ := steady.play faithful orderly owes played
    -- The request has a network due twice, and then not all reports can be handled.
    have started := steady'.started_of_done faithful done moved
    obtain ⟨id, twice⟩ := steady'.two_le_tally owes' started awaits
    have carriedOn' (rows : List Nat) : ∃ last,
        middle.play engine host (later ++ rows.map .report) = .ok last := by
      obtain ⟨last, played'⟩ := carriedOn rows
      exact ⟨last, (Sitting.play_cons_ok moved _).symm.trans played'⟩
    have once := (steady'.move moved (.started done started)).tally_le_one_of_play faithful
      orderly (owes'.move (.started done started)) carriedOn' id
    omega
  · intro patient rows
    refine Sitting.Calm.exists_play faithful orderly described calm steady ?_
    intro earlier later next split played done
    have noConnect : (.connect : Move W) ∉ rows.map .report := by simp
    -- Requests to connect are all among the moves, since the rest are reports.
    rcases List.append_eq_append_iff.1 split with ⟨more, -, same⟩ | ⟨more, here, same⟩
    · exact absurd (by rw [same]; simp) noConnect
    · cases more with
      | nil => exact absurd (by rw [← List.nil_append (rows.map _), ← same]; simp) noConnect
      | cons move more =>
          obtain ⟨rfl, -⟩ := List.cons.inj same
          exact patient earlier more next here played done

theorem bitcoin_orderly : (Engine.prompt [.bitcoin]).Orderly .mainnet where
  family := by decide
  ids := by decide
  currencies := by decide
  units := by decide +kernel

theorem bitcoin_described (reports : EngineCall → List EngineEvent) :
    (Engine.prompt [.bitcoin]).Described (Host.granting .bitcoin reports) := by
  intro world catalog refreshed
  obtain rfl := Except.ok.inj refreshed
  decide +kernel

/-- A first request to connect is patient. -/
theorem first_connect_unbroken_bitcoin :
    let host := Host.granting .bitcoin fun _ => []
    let start := Sitting.opening host (Scene.first .standard []) ""
    ∀ rows : List Nat, ∃ last,
      start.play (.prompt [.bitcoin]) host ([.connect] ++ rows.map .report) = .ok last := by
  intro host start
  refine (reports_unbroken_iff_patient (.prompt [.bitcoin]) host .standard [] [] "" [.connect]
    (Engine.prompt_faithful _) bitcoin_orderly (bitcoin_described _) rfl).2 ?_
  intro earlier later next split played _ awaits
  cases earlier with
  | nil =>
      -- Nothing was asked for before.
      obtain rfl := Except.ok.inj played
      obtain ⟨network, -, asked, -⟩ := awaits
      exact List.not_mem_nil asked
  | cons move rest =>
      have lengths := congrArg List.length split
      simp at lengths

/-- Who disconnects and connects again before the network was reported has it reported
twice, and the queue stopped. -/
theorem hasty_reconnect_breaks_invariant :
    let host := Host.granting .bitcoin fun _ => []
    let start := Sitting.opening host (Scene.first .standard []) ""
    (Engine.prompt [.bitcoin]).Faithful ∧ (Engine.prompt [.bitcoin]).Orderly .mainnet ∧
      (Engine.prompt [.bitcoin]).Described host ∧
      start.play (.prompt [.bitcoin]) host
          [.connect, .disconnect, .connect, .report 0, .report 1] =
        .error (.duplicateCurrency Network.bitcoin.currency) := by
  intro host start
  have stopped : (match start.play (.prompt [.bitcoin]) host
        [.connect, .disconnect, .connect, .report 0, .report 1] with
      | .error broken => broken == .duplicateCurrency Network.bitcoin.currency
      | .ok _ => false) = true := by
    decide +kernel
  refine ⟨Engine.prompt_faithful _, bitcoin_orderly, bitcoin_described _, ?_⟩
  split at stopped
  · rename_i played
    rw [played, eq_of_beq stopped]
  · cases stopped

end MultiWallet
