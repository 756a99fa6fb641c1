import MultiWallet.Proofs.Registering

/-!
What becomes of events that a session leaves behind. They are told from those of
the next session by nothing but the registry's stage of life: as long as no other
session is created they are dropped, and after that they are handled as if they
were its own.
-/

namespace MultiWallet

open Outside

variable {W : Type}

/-- The events that register or remove something in a session, whenever they are
handled at all. -/
def EngineEvent.Registers (config : Config) : EngineEvent → Prop
  | .system (.networkAdded network) => network.isMainnet = config.networkClass.isMainnet
  | .system (.managerAdded _) => True
  | .manager _ (.walletAdded _) => True
  | .manager _ (.walletDeleted _) => True
  | _ => False

namespace Scene

/-- An event is ignored if handling it changes nothing that is registered and no
progress, publishes nothing, and breaks no invariant. -/
structure Ignores (host : Host W) (scene : Scene W) (event : EngineEvent) : Prop where
  currencies :
    (scene.after host (.given (.event event))).registry.currencies = scene.registry.currencies
  managers :
    (scene.after host (.given (.event event))).registry.managers = scene.registry.managers
  wallets : (scene.after host (.given (.event event))).registry.wallets = scene.registry.wallets
  progress :
    (scene.after host (.given (.event event))).registry.progress = scene.registry.progress
  actions : (scene.after host (.given (.event event))).outside.actions = scene.outside.actions
  unbroken : scene.broken? host event = none

theorem ignores_of_uninitialized (host : Host W) {scene : Scene W}
    (closed : scene.registry.lifecycle = .uninitialized) (event : EngineEvent) :
    scene.Ignores host event := by
  obtain ⟨same, unbroken⟩ := event_of_uninitialized host closed event
  have registry := congrArg registry same
  exact ⟨congrArg Registry.currencies registry, congrArg Registry.managers registry,
    congrArg Registry.wallets registry, congrArg Registry.progress registry,
    congrArg (·.outside.actions) same, unbroken⟩

/-- In a session no event is ignored that registers or removes something. -/
theorem Sound.not_ignores {config : Config} {scene : Scene W} (sound : scene.Sound config)
    (host : Host W) (initialized : scene.registry.lifecycle ≠ .uninitialized)
    {event : EngineEvent} (registers : event.Registers config) : ¬scene.Ignores host event := by
  intro ignored
  have unbroken := ignored.unbroken
  cases event with
  | system event =>
      cases event with
      | created => exact registers
      | networkAdded network =>
          obtain ⟨session, opened⟩ := Option.ne_none_iff_exists'.1 fun none =>
            initialized (sound.registry.session.1 none)
          have family : network.isMainnet = _ := registers
          rw [← sound.registry.config] at family
          cases enlisted : scene.registry.enlist network [] network.currencies with
          | error broken =>
              rw [networkAdded_of_error host initialized family opened enlisted] at unbroken
              cases unbroken
          | ok made =>
              obtain ⟨mode, writes, -, -, added, -⟩ :=
                networkAdded_of_enlist host sound.heard initialized family opened enlisted
              have actions := added.actions
              rw [ignored.actions, List.self_eq_append_right] at actions
              simp [Effect.action?] at actions
      | managerAdded manager =>
          by_cases mem : manager.network.id ∈ scene.registry.managers
          · rw [managerAdded_of_mem host initialized mem] at unbroken
            cases unbroken
          · have same := ignored.managers
            rw [(managerAdded_of_not_mem host initialized mem).1] at same
            rw [← same] at mem
            simp at mem
  | manager manager event =>
      cases event with
      | walletAdded wallet =>
          by_cases mem : wallet.currency.uid ∈ scene.registry.wallets
          · rw [walletAdded_of_mem host manager initialized mem] at unbroken
            cases unbroken
          cases known : scene.registry.currencies[wallet.currency.uid]? with
          | none =>
              rw [walletAdded_of_unknown host manager initialized mem known] at unbroken
              cases unbroken
          | some currency =>
              have same := ignored.wallets
              rw [(walletAdded_of_known host manager initialized mem known).1] at same
              rw [← same] at mem
              simp [Registry.withWallet] at mem
      | walletDeleted wallet =>
          cases found : scene.registry.wallets[wallet.currency.uid]? with
          | none =>
              rw [walletDeleted_of_not_mem host manager initialized found] at unbroken
              cases unbroken
          | some controller =>
              have same := ignored.wallets
              rw [walletDeleted_of_some host manager initialized found] at same
              have mem := Table.mem_iff_exists.2 ⟨controller, found⟩
              rw [← same] at mem
              simp at mem
      | created | changed | deleted | walletChanged | syncStarted | syncProgress | syncEnded
      | blockUpdated => exact registers
  | wallet | transfer => exact registers

/-! ### From one session to the next -/

/-- A session was created in the course of some happenings and not shut down
after that. -/
def Reopens (host : Host W) (scene : Scene W) (happenings : List (Happening W)) : Prop :=
  ∃ earlier account later, happenings = earlier ++ .given (.command (.create account)) :: later ∧
    ((scene.run host earlier).turn host (.command (.create account))).answer = .ok .done ∧
    .given (.command .shutdown) ∉ later

/-- Without a session there is one afterwards only if it was created. -/
theorem Sound.uninitialized_after {config : Config} {scene : Scene W}
    (sound : scene.Sound config) (host : Host W)
    (closed : scene.registry.lifecycle = .uninitialized) {happening : Happening W}
    (initialized : (scene.after host happening).registry.lifecycle ≠ .uninitialized) :
    ∃ account, happening = .given (.command (.create account)) ∧
      (scene.turn host (.command (.create account))).answer = .ok .done := by
  cases happening with
  | meanwhile => exact absurd closed initialized
  | given input =>
      obtain ⟨effects, -, outcome⟩ := sound.after_given host input
      generalize next : (scene.after host (.given input)).registry = registry at outcome
      rw [next] at initialized
      cases outcome with
      | quiet alike => exact absurd (alike.lifecycle.trans closed) initialized
      | @asked account =>
          rcases create_cases host scene account with ⟨done, -⟩ | ⟨-, same⟩
          · exact ⟨account, rfl, done⟩
          · rw [← next] at initialized
            exact absurd ((congrArg Registry.lifecycle same).trans closed) initialized
      | connected idle => simp [closed] at idle
      | disconnected active => simp [closed] at active
      | ended => exact absurd rfl initialized
      | network opened | manager opened | wallet opened | removal opened =>
          exact absurd closed opened

/-- A session stays over some happenings without a shutdown. -/
theorem Sound.initialized_run {config : Config} {scene : Scene W} (sound : scene.Sound config)
    (host : Host W) (initialized : scene.registry.lifecycle ≠ .uninitialized)
    {happenings : List (Happening W)} (other : .given (.command .shutdown) ∉ happenings) :
    (scene.run host happenings).registry.lifecycle ≠ .uninitialized := by
  induction happenings generalizing scene with
  | nil => exact initialized
  | cons happening rest ih =>
      rw [List.mem_cons, not_or] at other
      exact ih (sound.after host happening)
        (sound.initialized_after host initialized (Ne.symm other.1)) other.2

/-- There is a session after some happenings if there was one that was not shut
down, or if one was created in their course. -/
theorem Sound.initialized_run_iff {config : Config} {scene : Scene W}
    (sound : scene.Sound config) (host : Host W) (happenings : List (Happening W)) :
    (scene.run host happenings).registry.lifecycle ≠ .uninitialized ↔
      (scene.registry.lifecycle ≠ .uninitialized ∧
        .given (.command .shutdown) ∉ happenings) ∨ scene.Reopens host happenings := by
  constructor
  · intro initialized
    induction happenings generalizing scene with
    | nil => exact .inl ⟨initialized, List.not_mem_nil⟩
    | cons happening rest ih =>
        rcases ih (sound.after host happening) initialized with ⟨opened, other⟩ | reopens
        · by_cases closed : scene.registry.lifecycle = .uninitialized
          · obtain ⟨account, rfl, done⟩ := sound.uninitialized_after host closed opened
            exact .inr ⟨[], account, rest, rfl, done, other⟩
          · -- A shutdown would have ended the session that is there after the first step.
            refine .inl ⟨closed, fun mem => ?_⟩
            rcases List.mem_cons.1 mem with rfl | mem
            · exact opened (uninitialized_after_shutdown host scene)
            · exact other mem
        · obtain ⟨earlier, account, later, rfl, done, other⟩ := reopens
          exact .inr ⟨happening :: earlier, account, later, rfl, done, other⟩
  · rintro (⟨initialized, other⟩ | ⟨earlier, account, later, rfl, done, other⟩)
    · exact sound.initialized_run host initialized other
    · rw [run_append, run_cons]
      refine ((sound.run host earlier).after host _).initialized_run host ?_ other
      rcases create_cases host (scene.run host earlier) account with ⟨-, -, idle⟩ | ⟨failed, -⟩
      · exact fun closed => Lifecycle.noConfusion (idle.symm.trans closed)
      · exact absurd done failed

end Scene

/-! ### Events left behind -/

/-- After a session was shut down, its events are all ignored exactly until another
one is created; and of those that register or remove something, none is ignored
from then on. -/
theorem stale_events_ignored_iff_not_reopened (host : Host W) (config : Config) (world : W)
    (earlier later : List (Happening W)) :
    let closed := (Scene.first config world).run host (earlier ++ [.given (.command .shutdown)])
    ((∀ event, (closed.run host later).Ignores host event) ↔ ¬closed.Reopens host later) ∧
      ∀ event, event.Registers config →
        ((closed.run host later).Ignores host event ↔ ¬closed.Reopens host later) := by
  intro closed
  have sound : closed.Sound config := (Scene.Sound.first config world).run host _
  have isClosed : closed.registry.lifecycle = .uninitialized := by
    rw [show closed = _ from Scene.run_append host _ earlier [.given (.command .shutdown)]]
    exact Scene.uninitialized_after_shutdown host _
  have soundLater := sound.run host later
  have opened_iff := sound.initialized_run_iff host later
  simp only [isClosed, ne_eq, not_true_eq_false, false_and, false_or] at opened_iff
  have dropped : ¬closed.Reopens host later → ∀ event, (closed.run host later).Ignores host event :=
    fun none => Scene.ignores_of_uninitialized host
      (Classical.not_not.1 (mt opened_iff.1 none))
  have handled (event : EngineEvent) (registers : event.Registers config)
      (ignored : (closed.run host later).Ignores host event) : ¬closed.Reopens host later :=
    fun reopens => soundLater.not_ignores host (opened_iff.2 reopens) registers ignored
  refine ⟨⟨fun ignored => ?_, dropped⟩, fun event registers =>
    ⟨handled event registers, fun none => dropped none event⟩⟩
  let manager : EngineManager := ⟨0, .bitcoin⟩
  exact handled (.system (.managerAdded manager)) trivial (ignored _)

/-- A network that was discovered in one session, and is reported while the next
one is not connected yet, breaks an invariant. -/
theorem stale_network_breaks_next_session :
    let host := Host.granting .empty fun
      | .start _ => [.system (.networkAdded .bitcoin)]
      | _ => []
    let connected := (Scene.first .standard []).run host
      [.given (.command (.create "")), .given (.command .connect)]
    let next := connected.run host
      [.given (.command .shutdown), .given (.command (.create ""))]
    (host.takeEvents connected.outside.world).1 = [.system (.networkAdded .bitcoin)] ∧
      next.broken? host (.system (.networkAdded .bitcoin)) =
        some (.missingMetadata Network.bitcoin.currency) ∧
      ¬next.Ignores host (.system (.networkAdded .bitcoin)) := by
  intro host connected next
  have broken : next.broken? host (.system (.networkAdded .bitcoin)) =
      some (.missingMetadata Network.bitcoin.currency) := by
    decide +kernel
  refine ⟨rfl, broken, fun ignored => ?_⟩
  rw [ignored.unbroken] at broken
  cases broken

end MultiWallet
