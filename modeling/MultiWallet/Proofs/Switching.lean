import MultiWallet.Proofs.ReadBack
import MultiWallet.Proofs.Steady

/-!
Choosing and switching modes. What is stored for one network changes nothing about
another one, whether or not it can be written; and commands bring into another mode
the manager that they are given to, and no other.
-/

namespace MultiWallet

variable {W : Type}

/-! ### Stored modes -/

/-- A store that answers what it was given to write. -/
def Store.Echoes {σ : Type} (store : Store σ) : Prop :=
  ∀ key value version s raw s', store.set key value version s = (.ok raw, s') → raw.value = value

theorem Store.Echoes.outside {host : Host W} (echoes : host.store.Echoes) :
    (Outside.store host).Echoes := by
  intro key value version outside raw outside' written
  obtain ⟨answer, -⟩ := Prod.mk.inj written
  exact echoes key value version outside.world raw _ (Prod.ext answer rfl)

namespace ConnectionSettings

variable {σ : Type} {store : Store σ}

theorem modes_save (echoes : store.Echoes) (settings : ConnectionSettings) (s : σ) :
    (settings.save store s).2.1.info.value.modes = settings.info.value.modes := by
  rw [save, Store.save]
  rcases written : store.set (Persisted.key WalletInfo)
    (Persisted.encode settings.info.value) settings.version s with ⟨fault | raw, s'⟩
  · rfl
  · have same := echoes _ _ _ _ _ _ written
    dsimp only
    rw [Record.decoded, same]
    cases read : Persisted.decode? (α := WalletInfo) (Persisted.encode settings.info.value) with
    | none => rfl
    | some info => exact WalletInfo.modes_of_decode read

/-- A choice holds, whether or not it can be written, and concerns nothing else. -/
theorem number?_choose (echoes : store.Echoes) (settings : ConnectionSettings)
    (uid other : CurrencyId) (mode : ManagerMode) (s : σ) :
    (settings.choose store uid mode s).2.1.number? other =
      if other = uid then some mode.number else settings.number? other := by
  rw [choose, number?, modes_save echoes]
  change (settings.info.value.modes.insert uid mode.number)[other]? = _
  rw [Std.ExtTreeMap.getElem?_insert]
  by_cases same : other = uid
  · rw [if_pos (by rw [same, Std.LawfulEqOrd.compare_eq_iff_eq]), if_pos same]
  · rw [if_neg (fun eq => same (Std.LawfulEqOrd.eq_of_compare eq).symm), if_neg same]
    rfl

theorem mode?_choose (echoes : store.Echoes) (settings : ConnectionSettings) (uid : CurrencyId)
    (mode : ManagerMode) (s : σ) :
    (settings.choose store uid mode s).2.1.mode? uid = some mode := by
  rw [mode?, number?_choose echoes, if_pos rfl, Option.bind_some, ManagerMode.ofNumber?_number]

theorem number?_sanitize_of_ne (settings : ConnectionSettings) {uid other : CurrencyId}
    (ne : other ≠ uid) (supported : ManagerMode → Bool) :
    (settings.sanitize uid supported).2.number? other = settings.number? other := by
  rw [sanitize]
  split
  · change (settings.info.value.modes.erase uid)[other]? = _
    rw [Std.ExtTreeMap.getElem?_erase,
      if_neg fun eq => ne (Std.LawfulEqOrd.eq_of_compare eq).symm]
    rfl
  · rfl

theorem modeFor_of_some {settings : ConnectionSettings} {uid : CurrencyId}
    {supported : ManagerMode → Bool} {mode : ManagerMode}
    (usable : settings.usable? uid supported = some mode) (s : σ) :
    settings.modeFor store uid supported s = (mode, settings, s) := by
  rw [modeFor, usable]

theorem modeFor_of_none {settings : ConnectionSettings} {uid : CurrencyId}
    {supported : ManagerMode → Bool} (unusable : settings.usable? uid supported = none) (s : σ) :
    settings.modeFor store uid supported s = (.standardFor uid,
      ((settings.sanitize uid supported).2.choose store uid (.standardFor uid) s).2) := by
  rw [modeFor, unusable]

theorem number?_modeFor_of_ne (echoes : store.Echoes) (settings : ConnectionSettings)
    {uid other : CurrencyId} (ne : other ≠ uid) (supported : ManagerMode → Bool) (s : σ) :
    (settings.modeFor store uid supported s).2.1.number? other = settings.number? other := by
  cases usable : settings.usable? uid supported with
  | some mode => rw [modeFor_of_some usable]
  | none =>
      rw [modeFor_of_none usable, number?_choose echoes, if_neg ne, number?_sanitize_of_ne _ ne]

/-- The mode to use is the one that is stored from then on. -/
theorem mode?_modeFor (echoes : store.Echoes) (settings : ConnectionSettings) (uid : CurrencyId)
    (supported : ManagerMode → Bool) (s : σ) :
    (settings.modeFor store uid supported s).2.1.mode? uid =
      some (settings.modeFor store uid supported s).1 := by
  cases usable : settings.usable? uid supported with
  | some mode =>
      rw [modeFor_of_some usable]
      exact (Option.filter_eq_some_iff.1 usable).1
  | none => rw [modeFor_of_none usable, mode?_choose echoes]

/-- Settings stay as they are unless a record is taken over. -/
theorem heed_of_unchanged (store : Store σ) (notice : Notice) (settings : ConnectionSettings)
    (s : σ) (unchanged : (settings.heed store notice s).1 ≠ .ok true) :
    (settings.heed store notice s).2.1 = settings := by
  rw [heed] at unchanged ⊢
  split
  · rw [if_pos ‹_›] at unchanged
    split
    · rfl
    · rfl
    · rename_i read
      simp only [read] at unchanged
      split
      · rfl
      · rename_i newer
        rw [if_neg newer] at unchanged
        exact absurd rfl unchanged
  · rfl

end ConnectionSettings

/-! ### Running modes -/

/-- What managers do about modes. Of those that are there, each runs in one mode until
it is itself told to switch; the engine does not change its mind about what it
supports; and the store answers what it was given. -/
structure Host.Switches (host : Host W) (isThere : W → EngineManager → Prop) : Prop where
  echoes : host.store.Echoes
  supports : ∀ session network world world',
    host.supports session network world = host.supports session network world'
  stays : ∀ {world world'}, host.Does (fun _ => True) world world' →
    ∀ manager, isThere world manager → isThere world' manager
  kept : ∀ {world world'}, host.Does (fun told => ∀ mode, told ≠ .setMode mode) world world' →
    ∀ manager, isThere world manager → host.modeOf manager world' = host.modeOf manager world
  switched : ∀ world manager mode, isThere world manager →
    host.modeOf manager (host.command manager (.setMode mode) world) = mode
  others : ∀ world manager other mode, isThere world other →
    other.network.id ≠ manager.network.id →
      host.modeOf other (host.command manager (.setMode mode) world) = host.modeOf other world

theorem Host.Does.imp {host : Host W} {allowed allowed' : ManagerCommand → Prop}
    (weaker : ∀ told, allowed told → allowed' told) {world world' : W}
    (h : host.Does allowed world world') : host.Does allowed' world world' := by
  cases h with
  | command may => exact .command (weaker _ may) _ _
  | _ => constructor

/-- Managers that are there stay, and run in the same modes. -/
def Outside.KeepsModes (host : Host W) (isThere : W → EngineManager → Prop)
    (before after : Outside W) : Prop :=
  ∀ manager, isThere before.world manager →
    isThere after.world manager ∧ host.modeOf manager after.world = host.modeOf manager before.world

namespace Host.Switches

open Outside

variable {host : Host W} {isThere : W → EngineManager → Prop} (switches : host.Switches isThere)

include switches

theorem steady_there : Steady host (fun _ => True) fun before after : Outside W =>
    ∀ manager, isThere before.world manager → isThere after.world manager where
  refl _ _ there := there
  trans h h' manager there := h' manager (h manager there)
  note _ _ _ _ there := there
  told _ _ _ _ _ there := there
  world _ _ does := switches.stays does

theorem steady_modes : Steady host (fun told => ∀ mode, told ≠ .setMode mode)
    (KeepsModes host isThere) where
  refl _ _ there := ⟨there, rfl⟩
  trans h h' manager there :=
    have ⟨still, same⟩ := h manager there
    have ⟨onward, same'⟩ := h' manager still
    ⟨onward, same'.trans same⟩
  note _ _ _ _ there := ⟨there, rfl⟩
  told _ _ _ _ _ there := ⟨there, rfl⟩
  world _ _ does manager there :=
    ⟨switches.stays (does.imp fun _ _ => trivial) manager there, switches.kept does manager there⟩

/-- A manager that is told to switch does so, and no other one. -/
theorem switchTo (outside : Outside W) {manager : EngineManager}
    (there : isThere outside.world manager) (mode : ManagerMode) (reconnect : Bool) :
    host.modeOf manager
        (outside.commandAll host manager (Registry.switchTo mode reconnect)).world = mode ∧
      ∀ other, isThere outside.world other → other.network.id ≠ manager.network.id →
        host.modeOf other
            (outside.commandAll host manager (Registry.switchTo mode reconnect)).world =
          host.modeOf other outside.world := by
  have steady := switches.steady_modes
  let stopped := outside.command host manager .disconnect
  let switched := stopped.command host manager (.setMode mode)
  have whole : outside.commandAll host manager (Registry.switchTo mode reconnect) =
      switched.commandAll host manager (if reconnect then [.connect] else []) := by
    rw [commandAll, Registry.switchTo, List.foldl_append]
    rfl
  have before : KeepsModes host isThere outside stopped := steady.command outside manager nofun
  have after : KeepsModes host isThere switched
      (switched.commandAll host manager (if reconnect then [.connect] else [])) :=
    steady.commandAll switched manager _ (by split <;> simp)
  have still (other : EngineManager) (there : isThere outside.world other) :
      isThere switched.world other :=
    switches.stays (.command trivial _ _) other (before other there).1
  rw [whole]
  constructor
  · exact (after manager (still manager there)).2.trans
      (switches.switched stopped.world manager mode (before manager there).1)
  · intro other there' apart
    exact (after other (still other there')).2.trans
      ((switches.others stopped.world manager other mode (before other there').1 apart).trans
        (before other there').2)

/-- A manager adopts the mode that is stored for its network, and no other one changes
its mode. -/
theorem adoption (session : EngineSession) (settings : ConnectionSettings) (reconnect : Bool)
    (outside : Outside W) {manager : EngineManager} (there : isThere outside.world manager)
    (world : W) :
    (∀ mode, settings.usable? manager.network.currency
        (host.supports session manager.network world) = some mode →
      host.modeOf manager (outside.commandAll host manager
        (Registry.adoption host session settings reconnect outside.world manager)).world = mode) ∧
      ∀ other, isThere outside.world other → other.network.id ≠ manager.network.id →
        host.modeOf other (outside.commandAll host manager
            (Registry.adoption host session settings reconnect outside.world manager)).world =
          host.modeOf other outside.world := by
  rw [ConnectionSettings.usable?, Registry.adoption]
  cases settings.mode? manager.network.currency with
  | none => exact ⟨nofun, fun _ _ _ => rfl⟩
  | some mode =>
      dsimp only
      split
      · obtain ⟨switched, others⟩ := switches.switchTo outside there mode reconnect
        refine ⟨fun mode' usable => ?_, others⟩
        obtain rfl := Option.some.inj (Option.filter_eq_some_iff.1 usable).1
        exact switched
      · rename_i idle
        refine ⟨fun mode' usable => ?_, fun _ _ _ => rfl⟩
        obtain ⟨same, supported⟩ := Option.filter_eq_some_iff.1 usable
        obtain rfl := Option.some.inj same
        rw [switches.supports session manager.network world outside.world] at supported
        refine Eq.symm (Classical.byContradiction fun differs => idle ?_)
        rw [supported, Bool.and_true]
        exact decide_eq_true differs

section Adoptions

variable (session : EngineSession) (settings : ConnectionSettings) (reconnect : Bool)

omit switches in
/-- The surroundings after some managers adopted what is stored, one after the other. -/
abbrev adopted (host : Host W) (managers : List EngineManager) (outside : Outside W) : Outside W :=
  managers.foldl (fun outside manager => outside.commandAll host manager
    (Registry.adoption host session settings reconnect outside.world manager)) outside

theorem modeOf_adopted_of_ne {managers : List EngineManager} (outside : Outside W)
    (there : ∀ manager ∈ managers, isThere outside.world manager) {other : EngineManager}
    (isOther : isThere outside.world other)
    (apart : ∀ manager ∈ managers, other.network.id ≠ manager.network.id) :
    host.modeOf other (adopted session settings reconnect host managers outside).world =
      host.modeOf other outside.world := by
  induction managers generalizing outside with
  | nil => rfl
  | cons first rest ih =>
      obtain ⟨here, others⟩ := List.forall_mem_cons.1 there
      obtain ⟨apart, apartLater⟩ := List.forall_mem_cons.1 apart
      have still := switches.steady_there.commandAll outside first
        (Registry.adoption host session settings reconnect outside.world first)
        fun _ _ => trivial
      refine (ih _ (fun manager mem => still manager (others manager mem)) (still other isOther)
        apartLater).trans ?_
      exact (switches.adoption session settings reconnect outside here outside.world).2 other
        isOther apart

/-- Then each of them runs in the mode that is stored for its network. -/
theorem modeOf_adopted {managers : List EngineManager}
    (distinct : managers.Pairwise fun manager other => manager.network.id ≠ other.network.id)
    (outside : Outside W) (there : ∀ manager ∈ managers, isThere outside.world manager)
    (world : W) {manager : EngineManager} (mem : manager ∈ managers) {mode : ManagerMode}
    (usable : settings.usable? manager.network.currency
      (host.supports session manager.network world) = some mode) :
    host.modeOf manager (adopted session settings reconnect host managers outside).world =
      mode := by
  induction managers generalizing outside with
  | nil => cases mem
  | cons first rest ih =>
      obtain ⟨apart, distinct⟩ := List.pairwise_cons.1 distinct
      obtain ⟨here, others⟩ := List.forall_mem_cons.1 there
      have still := switches.steady_there.commandAll outside first
        (Registry.adoption host session settings reconnect outside.world first)
        fun _ _ => trivial
      have thereStill := fun manager mem => still manager (others manager mem)
      rcases List.mem_cons.1 mem with rfl | later
      · refine (modeOf_adopted_of_ne switches session settings reconnect _ thereStill
          (still manager here) apart).trans ?_
        exact (switches.adoption session settings reconnect outside here world).1 mode usable
      · exact ih distinct _ thereStill later

end Adoptions

end Host.Switches

end MultiWallet
