import MultiWallet.Catalog.Bundled
import MultiWallet.Proofs.Enlisting
import MultiWallet.Proofs.Outcome

/-!
Runs of a registry, of any length and with anything given to it in any order. In
between, the world and the holders of receipts go their own ways. What is proved
of every run rests on one invariant: the tables are keyed as they say, every
wallet is one of a registered currency, and without a session there is nothing.
-/

namespace MultiWallet

open Outside

variable {W : Type}

/-- A registry in its surroundings. -/
structure Scene (W : Type) where
  registry : Registry
  outside : Outside W

/-- What happens: something is given to the registry to handle, or meanwhile the
world changes by itself and receipts are taken or let go. -/
inductive Happening (W : Type) where
  | given (input : Input)
  | meanwhile (world : W) (receipts : Receipts)

namespace Scene

/-- Nothing has happened yet. -/
def first (config : Config) (world : W) : Scene W := ⟨.fresh config, .around world⟩

/-- The turn by which an input is handled. -/
def turn (host : Host W) (scene : Scene W) (input : Input) : Turn W Reply :=
  scene.registry.handle host input scene.outside

/-- The scene after something happened. -/
def after (host : Host W) (scene : Scene W) : Happening W → Scene W
  | .given input => ⟨(scene.turn host input).registry, (scene.turn host input).outside⟩
  | .meanwhile world receipts => ⟨scene.registry, { scene.outside with world, receipts }⟩

/-- The scene after some things happened in order. -/
def run (host : Host W) (scene : Scene W) (happenings : List (Happening W)) : Scene W :=
  happenings.foldl (after host) scene

@[simp] theorem run_nil (host : Host W) (scene : Scene W) : scene.run host [] = scene := rfl

@[simp] theorem run_cons (host : Host W) (scene : Scene W) (happening : Happening W)
    (rest : List (Happening W)) :
    scene.run host (happening :: rest) = (scene.after host happening).run host rest := rfl

theorem run_append (host : Host W) (scene : Scene W) (earlier later : List (Happening W)) :
    scene.run host (earlier ++ later) = (scene.run host earlier).run host later :=
  List.foldl_append

/-- What each happening keeps, a whole run keeps. -/
theorem run_keeps {host : Host W} {P : Scene W → Prop}
    (step : ∀ scene happening, P scene → P (scene.after host happening)) {scene : Scene W}
    (h : P scene) (happenings : List (Happening W)) : P (scene.run host happenings) := by
  induction happenings generalizing scene with
  | nil => exact h
  | cons happening rest ih => exact ih (step scene happening h)

/-- Each of some happenings meets a condition when its turn comes. -/
def Each (host : Host W) (R : Scene W → Happening W → Prop) (scene : Scene W)
    (happenings : List (Happening W)) : Prop :=
  ∀ earlier happening later, happenings = earlier ++ happening :: later →
    R (scene.run host earlier) happening

theorem each_nil {host : Host W} {R : Scene W → Happening W → Prop} {scene : Scene W} :
    Each host R scene [] := by
  intro earlier happening later split
  simp at split

theorem each_cons {host : Host W} {R : Scene W → Happening W → Prop} {scene : Scene W}
    {happening : Happening W} {rest : List (Happening W)} :
    Each host R scene (happening :: rest) ↔
      R scene happening ∧ Each host R (scene.after host happening) rest := by
  refine ⟨fun h => ⟨h [] happening rest rfl, fun before other after split =>
    h (happening :: before) other after (by rw [split]; rfl)⟩, fun ⟨now, others⟩ => ?_⟩
  rintro (- | ⟨first, before⟩) other after split
  · cases split
    exact now
  · cases split
    exact others before other after rfl

theorem Each.of_append {host : Host W} {R : Scene W → Happening W → Prop} {scene : Scene W}
    {earlier later : List (Happening W)} (h : Each host R scene (earlier ++ later)) :
    Each host R scene earlier :=
  fun before happening after split =>
    h before happening (after ++ later) (by rw [split, List.append_assoc]; rfl)

/-- What each happening keeps that meets a condition, a run of such happenings keeps. -/
theorem run_keeps_while {host : Host W} {P : Scene W → Prop} {R : Scene W → Happening W → Prop}
    (step : ∀ scene happening, P scene → R scene happening → P (scene.after host happening))
    {scene : Scene W} (h : P scene) {happenings : List (Happening W)}
    (regular : Each host R scene happenings) : P (scene.run host happenings) := by
  induction happenings generalizing scene with
  | nil => exact h
  | cons happening rest ih =>
      obtain ⟨now, others⟩ := each_cons.1 regular
      exact ih (step scene happening h now) others

/-- If, as long as something holds, it goes on to hold exactly under a condition on
the next happening, then it holds all along exactly if all happenings meet the
condition when their turn comes. -/
theorem run_always_iff_while {host : Host W} {I P : Scene W → Prop}
    {Q R : Scene W → Happening W → Prop}
    (kept : ∀ scene happening, I scene → R scene happening → I (scene.after host happening))
    (step : ∀ scene happening, I scene → R scene happening → P scene →
      (P (scene.after host happening) ↔ Q scene happening))
    {scene : Scene W} (i : I scene) (p : P scene) {happenings : List (Happening W)}
    (regular : Each host R scene happenings) :
    (∀ earlier later, happenings = earlier ++ later → P (scene.run host earlier)) ↔
      Each host Q scene happenings := by
  constructor
  · intro always earlier happening later split
    have here := always earlier (happening :: later) split
    have next := always (earlier ++ [happening]) later (by rw [split, List.append_assoc]; rfl)
    rw [run_append] at next
    exact (step _ happening (run_keeps_while kept i (split ▸ regular).of_append)
      (regular earlier happening later split) here).1 next
  · intro met earlier later split
    -- The induction is on the happenings so far, each of which is met by the rest.
    induction earlier generalizing scene happenings with
    | nil => exact p
    | cons happening earlier ih =>
        subst split
        obtain ⟨now, others⟩ := each_cons.1 regular
        obtain ⟨meets, onward⟩ := each_cons.1 met
        exact ih (kept scene happening i now) ((step scene happening i now p).2 meets) others onward
          rfl

/-- The same where no condition is needed. -/
theorem run_always_iff {host : Host W} {I P : Scene W → Prop}
    {Q : Scene W → Happening W → Prop}
    (kept : ∀ scene happening, I scene → I (scene.after host happening))
    (step : ∀ scene happening, I scene → P scene →
      (P (scene.after host happening) ↔ Q scene happening))
    {scene : Scene W} (i : I scene) (p : P scene) (happenings : List (Happening W)) :
    (∀ earlier later, happenings = earlier ++ later → P (scene.run host earlier)) ↔
      ∀ earlier happening later, happenings = earlier ++ happening :: later →
        Q (scene.run host earlier) happening :=
  run_always_iff_while (R := fun _ _ => True) (fun scene happening i _ => kept scene happening i)
    (fun scene happening i _ p => step scene happening i p) i p fun _ _ _ _ => trivial

end Scene

/-! ### The invariant of all runs -/

/-- What holds of a registry at all times. -/
structure Registry.Sound (config : Config) (registry : Registry) : Prop where
  config : registry.config = config
  /-- There is a session exactly from its creation to its end. -/
  session : registry.session = none ↔ registry.lifecycle = .uninitialized
  /-- Without a session nothing is registered. -/
  vacant : registry.lifecycle = .uninitialized →
    registry.currencies = ∅ ∧ registry.managers = ∅ ∧ registry.wallets = ∅
  keyed : ∀ (uid : CurrencyId) (currency : Currency),
    registry.currencies[uid]? = some currency → currency.uid = uid
  placed : ∀ (id : String) (manager : EngineManager),
    registry.managers[id]? = some manager → manager.network.id = id
  /-- A wallet is one of the registered currency. -/
  enrolled : ∀ (uid : CurrencyId) (controller : WalletController),
    registry.wallets[uid]? = some controller →
      registry.currencies[uid]? = some controller.currency

namespace Registry.Sound

variable {config : Config} {before after : Registry}

theorem fresh (config : Config) : Sound config (.fresh config) where
  config := rfl
  session := by simp [Registry.fresh]
  vacant _ := ⟨rfl, rfl, rfl⟩
  keyed _ _ h := by simp [Registry.fresh] at h
  placed _ _ h := by simp [Registry.fresh] at h
  enrolled _ _ h := by simp [Registry.fresh] at h

theorem of_alike (h : Sound config before) (alike : Registry.Alike before after) :
    Sound config after where
  config := alike.config.trans h.config
  session := by rw [alike.session, alike.lifecycle]; exact h.session
  vacant closed := by
    rw [alike.lifecycle] at closed
    obtain ⟨currencies, managers, wallets⟩ := h.vacant closed
    refine ⟨alike.currencies.trans currencies, alike.managers.trans managers, ?_⟩
    refine Std.ExtTreeMap.eq_empty_iff_forall_not_mem.2 fun uid mem => ?_
    rw [alike.mem_wallets, wallets] at mem
    simp at mem
  keyed := by rw [alike.currencies]; exact h.keyed
  placed := by rw [alike.managers]; exact h.placed
  enrolled uid controller found := by
    obtain ⟨old, was, same⟩ := alike.exists_wallet found
    rw [alike.currencies, h.enrolled uid old was]
    exact congrArg some (WalletController.currency_eq_of_bare same)

theorem of_register (h : Sound config before) {network : Network} {made : List Currency}
    (initialized : before.lifecycle ≠ .uninitialized)
    (enlisted : before.enlist network [] network.currencies = .ok made) :
    Sound config (before.register made) where
  config := h.config
  session := h.session
  vacant closed := absurd closed initialized
  keyed uid currency found := by
    rcases Registry.mem_or_of_register found with ⟨-, same⟩ | found
    · exact same
    · exact h.keyed uid currency found
  placed := h.placed
  enrolled uid controller found :=
    Registry.getElem?_register_of_enlist enlisted (h.enrolled uid controller found)

theorem of_outcome (h : Sound config before) {host : Host W} {input : Input}
    {effects : List Effect} (outcome : Outcome host before input after effects) :
    Sound config after := by
  cases outcome with
  | quiet alike _ => exact h.of_alike alike
  | asked closed made =>
      rcases made with rfl | ⟨session, rfl⟩
      · exact h
      · exact { h with session := by simp, vacant := by simp }
  | connected idle _ _ _ =>
      have opened : before.session ≠ none := by rw [ne_eq, h.session, idle]; decide
      exact { h with session := by simp [opened], vacant := by simp }
  | disconnected active _ =>
      have opened : before.session ≠ none := by rw [ne_eq, h.session, active]; decide
      exact { h with session := by simp [opened], vacant := by simp }
  | ended _ _ => rw [h.config]; exact .fresh config
  | network initialized _ enlisted alike _ =>
      exact (h.of_register initialized enlisted).of_alike alike
  | @manager manager _ initialized _ _ =>
      refine { h with vacant := fun closed => absurd closed initialized, placed := ?_ }
      intro id other found
      rw [Std.ExtTreeMap.getElem?_insert] at found
      split at found
      · rename_i same
        cases found
        exact Std.LawfulEqOrd.eq_of_compare same
      · exact h.placed id other found
  | @wallet manager wallet currency _ _ initialized _ known =>
      refine { h with vacant := fun closed => absurd closed initialized, enrolled := ?_ }
      intro uid controller found
      rw [Registry.withWallet, Std.ExtTreeMap.getElem?_insert] at found
      split at found
      · rename_i same
        cases found
        obtain rfl := Std.LawfulEqOrd.eq_of_compare same
        exact known
      · exact h.enrolled uid controller found
  | @removal manager wallet initialized _ =>
      refine { h with vacant := fun closed => absurd closed initialized, enrolled := ?_ }
      intro uid controller found
      rw [Std.ExtTreeMap.getElem?_erase] at found
      split at found
      · cases found
      · exact h.enrolled uid controller found

end Registry.Sound

namespace Scene

/-- The published actions of a scene are heard, and its registry is sound. -/
structure Sound (config : Config) (scene : Scene W) : Prop where
  heard : scene.outside.isHeard = true
  registry : scene.registry.Sound config

theorem Sound.first (config : Config) (world : W) : Sound config (first config world) :=
  ⟨rfl, .fresh config⟩

/-- Every turn comes out as one of the cases, with effects that are added to what
was done. -/
theorem Sound.after_given {config : Config} {scene : Scene W} (h : Sound config scene)
    (host : Host W) (input : Input) :
    ∃ effects, Adds scene.outside (scene.after host (.given input)).outside effects ∧
      Outcome host scene.registry input (scene.after host (.given input)).registry effects :=
  Registry.handle_settles h.heard host input

theorem Sound.after {config : Config} {scene : Scene W} (h : Sound config scene)
    (host : Host W) (happening : Happening W) : Sound config (scene.after host happening) := by
  cases happening with
  | given input =>
      obtain ⟨effects, added, outcome⟩ := h.after_given host input
      exact ⟨added.isHeard.trans h.heard, h.registry.of_outcome outcome⟩
  | meanwhile world receipts => exact ⟨h.heard, h.registry⟩

theorem Sound.run {config : Config} {scene : Scene W} (h : Sound config scene) (host : Host W)
    (happenings : List (Happening W)) : Sound config (scene.run host happenings) :=
  run_keeps (fun _ happening kept => kept.after host happening) h happenings

/-- What the engine is told: creating a session begins one, the report of a network has
its manager asked for if its currencies can be registered, and else discovery is
started or stopped at most. -/
theorem Sound.calls_after {config : Config} {scene : Scene W} (h : Sound config scene)
    (host : Host W) (happening : Happening W) :
    ∃ calls, (scene.after host happening).outside.calls = scene.outside.calls ++ calls ∧
      (calls = [] ∨ calls = [.stop] ∨ calls = [.start scene.registry.undiscovered] ∨
        (∃ account mainnet directory, happening = .given (.command (.create account)) ∧
          scene.registry.lifecycle = .uninitialized ∧
          calls = [.createSession account mainnet directory]) ∨
        ∃ network made mode, happening = .given (.event (.system (.networkAdded network))) ∧
          scene.registry.enlist network [] network.currencies = .ok made ∧
          Registry.Alike (scene.registry.register made) (scene.after host happening).registry ∧
          calls = [.createManager network mode (made.map (·.uid))]) := by
  cases happening with
  | meanwhile world receipts => exact ⟨[], (List.append_nil _).symm, .inl rfl⟩
  | given input =>
      obtain ⟨effects, added, outcome⟩ := h.after_given host input
      refine ⟨_, added.calls, ?_⟩
      generalize (scene.after host (.given input)).registry = registry at outcome ⊢
      cases outcome with
      | quiet _ quiet | manager _ _ quiet =>
          exact .inl (Effect.filterMap_call?_of_quiet quiet)
      | asked closed => exact .inr (.inr (.inr (.inl ⟨_, _, _, rfl, closed, rfl⟩)))
      | connected _ _ quiet quiet' =>
          exact .inr (.inr (.inl (Effect.filterMap_call?_between quiet quiet' _)))
      | disconnected _ quiet => exact .inr (.inl (Effect.filterMap_call?_concat quiet _))
      | @ended effects _ quiet =>
          rw [List.filterMap_append, List.filterMap_append, Effect.filterMap_call?_of_quiet quiet]
          cases scene.registry.session with
          | none => exact .inl rfl
          | some session => exact .inr (.inl rfl)
      | network _ _ enlisted alike only =>
          exact .inr (.inr (.inr (.inr
            ⟨_, _, _, rfl, enlisted, alike, Effect.filterMap_call?_of_writes only _ _⟩)))
      | wallet | removal => exact .inl rfl

/-! ### The course of a session -/

/-- A session is created where there was none, or nothing has changed. -/
theorem create_cases (host : Host W) (scene : Scene W) (account : String) :
    ((scene.turn host (.command (.create account))).answer = .ok .done ∧
        scene.registry.lifecycle = .uninitialized ∧
        (scene.turn host (.command (.create account))).registry.lifecycle = .idle) ∨
      ((scene.turn host (.command (.create account))).answer ≠ .ok .done ∧
        (scene.turn host (.command (.create account))).registry = scene.registry) := by
  change ((scene.registry.create host account scene.outside).answer.map _ = .ok _ ∧ _ ∧
      (scene.registry.create host account scene.outside).registry.lifecycle = _) ∨
    ((scene.registry.create host account scene.outside).answer.map _ ≠ .ok _ ∧
      (scene.registry.create host account scene.outside).registry = _)
  rw [Registry.create]
  split
  · rename_i uninitialized
    split
    · refine .inr ⟨?_, rfl⟩
      rintro ⟨⟩
    · split
      · refine .inr ⟨?_, rfl⟩
        rintro ⟨⟩
      · exact .inl ⟨rfl, uninitialized, rfl⟩
  · refine .inr ⟨?_, rfl⟩
    rintro ⟨⟩

/-- A session that is idle is connected, or nothing has changed. -/
theorem connect_cases (host : Host W) (scene : Scene W) :
    ((scene.turn host (.command .connect)).answer = .ok .done ∧
        scene.registry.lifecycle = .idle ∧
        (scene.turn host (.command .connect)).registry.lifecycle = .active) ∨
      ((scene.turn host (.command .connect)).answer ≠ .ok .done ∧
        (scene.turn host (.command .connect)).registry = scene.registry) := by
  change ((scene.registry.connect host scene.outside).answer.map _ = .ok _ ∧ _ ∧
      (scene.registry.connect host scene.outside).registry.lifecycle = _) ∨
    ((scene.registry.connect host scene.outside).answer.map _ ≠ .ok _ ∧
      (scene.registry.connect host scene.outside).registry = _)
  rw [Registry.connect]
  split
  · refine .inr ⟨?_, rfl⟩
    rintro ⟨⟩
  · rename_i session found
    split
    · refine .inr ⟨?_, rfl⟩
      rintro ⟨⟩
    · refine .inl ⟨rfl, ?_, rfl⟩
      simpa using (Registry.lifecycle_of_sessionAt? found).1

theorem uninitialized_after_shutdown (host : Host W) (scene : Scene W) :
    (scene.after host (.given (.command .shutdown))).registry.lifecycle = .uninitialized := by
  change (scene.registry.shutdown host scene.outside).registry.lifecycle = .uninitialized
  rw [Registry.shutdown]
  split
  · assumption
  · rfl

/-- A session stays until it is shut down. -/
theorem Sound.initialized_after {config : Config} {scene : Scene W} (sound : scene.Sound config)
    (host : Host W) (initialized : scene.registry.lifecycle ≠ .uninitialized)
    {happening : Happening W} (other : happening ≠ .given (.command .shutdown)) :
    (scene.after host happening).registry.lifecycle ≠ .uninitialized := by
  cases happening with
  | meanwhile => exact initialized
  | given input =>
      obtain ⟨effects, -, outcome⟩ := sound.after_given host input
      generalize (scene.after host (.given input)).registry = next at outcome
      cases outcome with
      | quiet alike => rwa [alike.lifecycle]
      | asked closed => exact absurd closed initialized
      | connected | disconnected => nofun
      | ended => exact absurd rfl other
      | network _ _ _ alike => rw [alike.lifecycle]; exact initialized
      | manager | wallet | removal => exact initialized

end Scene

/-! ### A plain world -/

/-- A host that grants whatever it is asked for, with a store that takes nothing.
What its engine reports because of a call waits to be taken. -/
def Host.granting (catalog : Catalog) (reports : EngineCall → List EngineEvent) :
    Host (List EngineEvent) where
  now _ := .epoch
  store :=
    ⟨fun _ waiting => (.ok none, waiting),
      fun _ _ _ waiting => (.error (.unavailable "read only"), waiting)⟩
  refreshCatalog waiting := (.ok catalog, waiting)
  makeDirectory waiting := (.ok (), waiting)
  removeDirectory waiting := waiting
  createSession account mainnet directory waiting :=
    (.ok ⟨0⟩, waiting ++ reports (.createSession account mainnet directory))
  start _ networks waiting := waiting ++ reports (.start networks)
  stop _ waiting := waiting ++ reports .stop
  supports _ _ _ _ := true
  defaultMode _ _ _ := .apiOnly
  createManager _ network mode currencies waiting :=
    (.ok (), waiting ++ reports (.createManager network mode currencies))
  modeOf _ _ := .apiOnly
  stateOf _ _ := .created
  command _ _ waiting := waiting
  balanceOf wallet _ := .zero wallet.currency.uid
  transfersOf _ _ := []
  receiveAddress _ _ := ⟨""⟩
  addressOf? _ _ _ := none
  draft _ _ _ _ waiting := (none, waiting)
  takeEvents waiting := (waiting, [])

/-- A network with one currency. -/
def Network.bitcoin : Network :=
  let satoshi : CurrencyUnit := ⟨"satoshi", "sat", 0⟩
  let uid : CurrencyId := ⟨"bitcoin-mainnet:__native__"⟩
  { id := "bitcoin-mainnet"
    name := "Bitcoin"
    isMainnet := true
    currency := uid
    currencies := [⟨uid, "btc", "Bitcoin", .native⟩]
    units := Table.ofPairs [(uid, ⟨satoshi, satoshi, [satoshi]⟩)] }

/-- The catalog of that currency alone. -/
def Catalog.bitcoin : Catalog :=
  .ofEntries [listing Network.bitcoin.currency.text "btc" "Bitcoin" [] none 8]

end MultiWallet
