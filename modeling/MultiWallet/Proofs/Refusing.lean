import MultiWallet.Proofs.Registering

/-!
What the registry refuses. A request is refused at the wrong stage of life, if it names
what is not there, or if it would break an invariant, and an event if it contradicts
what is registered. All of that is found out before anything is done, so that a refusal
leaves everything as it was.
-/

namespace MultiWallet

variable {W : Type}

theorem Table.not_mem_of_none {κ α : Type} [Ord κ] [Std.TransOrd κ] {table : Table κ α} {k : κ}
    (none : table[k]? = none) : k ∉ table := by
  intro mem
  obtain ⟨value, found⟩ := mem_iff_exists.1 mem
  cases none.symm.trans found

namespace Registry

variable {registry : Registry} {outside : Outside W}

/-! ### Networks that cannot be registered -/

/-- Why a currency of a network, behind others with some ids, cannot be registered. -/
inductive Flawed (registry : Registry) (network : Network) (seen : List CurrencyId)
    (core : EngineCurrency) : Prop
  | undescribed : registry.catalog.get? core.uid = none → Flawed registry network seen core
  | unitless : core.uid ∉ network.units → Flawed registry network seen core
  | registered : core.uid ∈ registry.currencies → Flawed registry network seen core
  | repeated : core.uid ∈ seen → Flawed registry network seen core

/-- Some currency of a network cannot be registered. -/
def HasFlaw (registry : Registry) (network : Network) : Prop :=
  ∃ earlier core later, network.currencies = earlier ++ core :: later ∧
    registry.Flawed network (earlier.map (·.uid)) core

/-- A currency that is flawed ends the making of currencies, and another one is made. -/
theorem enlist_cons (registry : Registry) (network : Network) (made : List Currency)
    (core : EngineCurrency) (rest : List EngineCurrency) :
    (registry.Flawed network (made.map (·.uid)) core ∧
        ∃ broken, registry.enlist network made (core :: rest) = .error broken) ∨
      ¬registry.Flawed network (made.map (·.uid)) core ∧
        ∃ currency : Currency, currency.uid = core.uid ∧
          registry.enlist network made (core :: rest) =
            registry.enlist network (made ++ [currency]) rest := by
  rw [enlist]
  cases described : registry.catalog.get? core.uid with
  | none => exact .inl ⟨.undescribed described, _, rfl⟩
  | some entry =>
      dsimp only
      split
      · rename_i isOld
        have old : core.uid ∈ registry.currencies ∨ core.uid ∈ made.map (·.uid) := by
          simpa using isOld
        exact .inl ⟨old.elim .registered .repeated, _, rfl⟩
      rename_i isNew
      have new : core.uid ∉ registry.currencies ∧ core.uid ∉ made.map (·.uid) := by
        simpa using isNew
      by_cases units : core.uid ∈ network.units
      · obtain ⟨currency, isMade⟩ :=
          Currency.exists_make? (registry.catalog.keyed core.uid entry described) units
        rw [isMade]
        refine .inr ⟨?_, currency, (Currency.make?_eq_some isMade).1, rfl⟩
        rintro (missing | missing | known | known)
        · exact Option.some_ne_none entry (described.symm.trans missing)
        · exact missing units
        · exact new.1 known
        · exact new.2 known
      · have none : Currency.make? core network entry = none := by
          rw [Currency.make?, Std.ExtTreeMap.getElem?_eq_none units, Option.map_none, ite_self]
        rw [none]
        exact .inl ⟨.unitless units, _, rfl⟩

/-- Making the currencies of a network fails exactly if one of them is flawed. -/
theorem enlist_error_iff {network : Network} {made : List Currency}
    {cores : List EngineCurrency} :
    (∃ broken, registry.enlist network made cores = .error broken) ↔
      ∃ earlier core later, cores = earlier ++ core :: later ∧
        registry.Flawed network (made.map (·.uid) ++ earlier.map (·.uid)) core := by
  induction cores generalizing made with
  | nil => simp [enlist]
  | cons core rest ih =>
      rcases registry.enlist_cons network made core rest with
        ⟨flawed, refused⟩ | ⟨sound, currency, uid, onward⟩
      · exact iff_of_true refused ⟨[], core, rest, rfl, by simpa using flawed⟩
      rw [onward, ih, List.map_append, List.map_singleton, uid]
      constructor
      · rintro ⟨earlier, other, later, rfl, flawed⟩
        exact ⟨core :: earlier, other, later, rfl, by simpa using flawed⟩
      · rintro ⟨_ | ⟨first, earlier⟩, other, later, split, flawed⟩
        · cases split
          exact absurd (by simpa using flawed) sound
        · cases split
          exact ⟨earlier, other, later, rfl, by simpa using flawed⟩

theorem enlist_error_iff_hasFlaw {network : Network} :
    (∃ broken, registry.enlist network [] network.currencies = .error broken) ↔
      registry.HasFlaw network :=
  enlist_error_iff

/-! ### Events that contradict what is registered -/

/-- An event contradicts what is registered: it brings what is there already, it is about
what is not there, or it is a network of the configured family that has a flaw. -/
def Contradicts (registry : Registry) : EngineEvent → Prop
  | .system (.networkAdded network) =>
    network.isMainnet = registry.config.networkClass.isMainnet ∧ registry.HasFlaw network
  | .system (.managerAdded manager) => manager.network.id ∈ registry.managers
  | .manager _ (.walletAdded wallet) =>
    wallet.currency.uid ∈ registry.wallets ∨ wallet.currency.uid ∉ registry.currencies
  | .manager _ (.walletDeleted wallet) => wallet.currency.uid ∉ registry.wallets
  | .wallet _ _ .created | .wallet _ _ .changed | .wallet _ _ .deleted => False
  | .wallet _ wallet _ | .transfer _ wallet _ _ => wallet.currency.uid ∉ registry.wallets
  | _ => False

/-- Whether a turn is refused as a violation exactly for some reason. -/
def RefusedIff {α : Type} (reason : Prop) (registry : Registry) (outside : Outside W)
    (turn : Turn W α) : Prop :=
  (reason ∧ ∃ broken, turn = registry.refuse outside (.violation broken)) ∨
    ¬reason ∧ ∀ broken, turn.answer ≠ .error (.violation broken)

/-- A turn that is answered is not refused. -/
theorem refusedIff_of_ok {α : Type} {reason : Prop} {turn : Turn W α} {result : α}
    (answered : turn.answer = .ok result) (sensible : ¬reason) :
    RefusedIff reason registry outside turn := by
  refine .inr ⟨sensible, fun broken refused => ?_⟩
  rw [answered] at refused
  cases refused

theorem refusedIff_addNetwork (host : Host W) (network : Network) {session : EngineSession}
    (opened : registry.session = some session) :
    RefusedIff (network.isMainnet = registry.config.networkClass.isMainnet ∧
      registry.HasFlaw network) registry outside (registry.addNetwork host network outside) := by
  rw [addNetwork]
  split
  · rename_i family
    exact refusedIff_of_ok rfl fun reason => family reason.1
  rename_i family
  rw [Classical.not_not] at family
  rw [opened]
  cases enlisted : registry.enlist network [] network.currencies with
  | error broken => exact .inl ⟨⟨family, enlist_error_iff_hasFlaw.1 ⟨_, enlisted⟩⟩, _, rfl⟩
  | ok made =>
      refine .inr ⟨fun reason => ?_, fun broken => ?_⟩
      · obtain ⟨broken, refused⟩ := enlist_error_iff_hasFlaw.2 reason.2
        rw [enlisted] at refused
        cases refused
      · -- Whatever the engine answers to the request for a manager is no violation.
        have other (answer : Except EngineError Unit) :
            answer.mapError RegistryError.engine ≠ .error (.violation broken) := by
          intro refused
          cases answer with
          | ok => cases refused
          | error fault => cases Except.error.inj refused
        exact other _

theorem refusedIff_addManager (host : Host W) (manager : EngineManager) :
    RefusedIff (manager.network.id ∈ registry.managers) registry outside
      (registry.addManager host manager outside) := by
  rw [addManager]
  split
  · rename_i known
    exact .inl ⟨Std.ExtTreeMap.contains_iff_mem.1 known, _, rfl⟩
  · rename_i isNew
    exact refusedIff_of_ok rfl fun known => isNew (Std.ExtTreeMap.contains_iff_mem.2 known)

theorem refusedIff_addWallet (host : Host W) (manager : EngineManager) (wallet : EngineWallet) :
    RefusedIff (wallet.currency.uid ∈ registry.wallets ∨ wallet.currency.uid ∉ registry.currencies)
      registry outside (registry.addWallet host manager wallet outside) := by
  rw [addWallet]
  dsimp only
  split
  · rename_i known
    exact .inl ⟨.inl (Std.ExtTreeMap.contains_iff_mem.1 known), _, rfl⟩
  rename_i isNew
  cases found : registry.currencies[wallet.currency.uid]? with
  | none => exact .inl ⟨.inr (Table.not_mem_of_none found), _, rfl⟩
  | some currency =>
      refine refusedIff_of_ok rfl ?_
      rintro (known | missing)
      · exact isNew (Std.ExtTreeMap.contains_iff_mem.2 known)
      · exact missing (Table.mem_iff_exists.2 ⟨currency, found⟩)

theorem refusedIff_removeWallet (wallet : EngineWallet) :
    RefusedIff (wallet.currency.uid ∉ registry.wallets) registry outside
      (registry.removeWallet wallet outside) := by
  rw [removeWallet]
  dsimp only
  cases found : registry.wallets[wallet.currency.uid]? with
  | none => exact .inl ⟨Table.not_mem_of_none found, _, rfl⟩
  | some controller =>
      exact refusedIff_of_ok rfl fun missing =>
        missing (Table.mem_iff_exists.2 ⟨controller, found⟩)

theorem refusedIff_withController (wallet : EngineWallet)
    (heed : WalletController → Outside W → WalletController × Outside W) (registry : Registry)
    (outside : Outside W) :
    RefusedIff (wallet.currency.uid ∉ registry.wallets) registry outside
      (registry.withController wallet heed outside) := by
  rw [withController]
  dsimp only
  cases found : registry.wallets[wallet.currency.uid]? with
  | none => exact .inl ⟨Table.not_mem_of_none found, _, rfl⟩
  | some controller =>
      exact refusedIff_of_ok rfl fun missing =>
        missing (Table.mem_iff_exists.2 ⟨controller, found⟩)

/-- In a session, an event is refused exactly if it contradicts what is registered. -/
theorem refusedIff_dispatch (host : Host W) (event : EngineEvent) {session : EngineSession}
    (opened : registry.session = some session) :
    RefusedIff (registry.Contradicts event) registry outside
      (registry.dispatch host event outside) := by
  cases event with
  | system event =>
      cases event with
      | created => exact refusedIff_of_ok rfl id
      | networkAdded network => exact refusedIff_addNetwork host network opened
      | managerAdded manager => exact refusedIff_addManager host manager
  | manager manager event =>
      cases event with
      | walletAdded wallet => exact refusedIff_addWallet host manager wallet
      | walletDeleted wallet => exact refusedIff_removeWallet wallet
      | created | changed | deleted | walletChanged | syncStarted | syncProgress | syncEnded
      | blockUpdated => exact refusedIff_of_ok rfl id
  | wallet manager wallet event =>
      have heeded := refusedIff_withController wallet (·.heedWalletEvent host event ·) registry
        outside
      cases event with
      | created | changed | deleted => exact refusedIff_of_ok rfl id
      | transferAdded | transferChanged | transferDeleted | transferSubmitted | balanceUpdated
      | feeBasisUpdated => exact heeded
  | transfer manager wallet transfer event =>
      exact refusedIff_withController wallet (·.heedTransferEvent host transfer.id event ·) registry
        outside

/-! ### Requests that are refused -/

end Registry

/-- Whether an error is the registry's own refusal of an input, and no failure of what the
registry relies on. -/
def Input.RefusedBy : Input → RegistryError → Prop
  | .command (.setMode _ _), .engine (.unsupportedMode _ _) => True
  | .command _, .lifecycle _ _ | .command _, .unknownNetwork _ | .command _, .unknownWallet _
  | .command _, .violation _ => True
  | .event _, .violation _ => True
  | _, _ => False

namespace Registry

/-- A turn for a request that leaves everything as it was or ends in no refusal. -/
def Careful {α : Type} (command : Command) (registry : Registry) (outside : Outside W)
    (turn : Turn W α) : Prop :=
  (turn.registry = registry ∧ turn.outside = outside) ∨
    ∀ error, turn.answer = .error error → ¬(Input.command command).RefusedBy error

theorem careful_refuse {α : Type} (command : Command) (registry : Registry) (outside : Outside W)
    (error : RegistryError) :
    Careful command registry outside (registry.refuse outside error : Turn W α) :=
  .inl ⟨rfl, rfl⟩

theorem careful_ok {α : Type} (command : Command) {registry after : Registry}
    {outside outside' : Outside W} (answer : α) :
    Careful command registry outside ⟨.ok answer, after, outside'⟩ :=
  .inr nofun

theorem careful_mapError {ε α : Type} (command : Command) {wrap : ε → RegistryError}
    (other : ∀ fault, ¬(Input.command command).RefusedBy (wrap fault)) {registry after : Registry}
    {outside outside' : Outside W} (answer : Except ε α) :
    Careful command registry outside ⟨answer.mapError wrap, after, outside'⟩ := by
  refine .inr fun error failed => ?_
  cases answer with
  | ok => cases failed
  | error fault =>
      obtain rfl := Except.error.inj failed
      exact other fault

theorem Careful.map {α β : Type} {command : Command} {registry : Registry} {outside : Outside W}
    {turn : Turn W α} (h : Careful command registry outside turn) (f : α → β) :
    Careful command registry outside (turn.map f) := by
  refine h.imp_right fun allowed error failed => allowed error ?_
  rcases turn with ⟨fault | answer, after, outside'⟩
  · exact congrArg Except.error (Except.error.inj failed)
  · cases failed

section Requests

variable (host : Host W) (registry : Registry) (outside : Outside W)

theorem careful_create (account : String) :
    Careful (.create account) registry outside (registry.create host account outside) := by
  rw [create]
  split
  · split
    · exact .inr (by rintro _ ⟨⟩ ⟨⟩)
    · split
      · exact .inr (by rintro _ ⟨⟩ ⟨⟩)
      · exact careful_ok _ _
  · exact careful_refuse _ registry outside _

theorem careful_connect : Careful .connect registry outside (registry.connect host outside) := by
  rw [connect]
  split
  · exact careful_refuse _ registry outside _
  · split
    · exact .inr (by rintro _ ⟨⟩ ⟨⟩)
    · exact careful_ok _ _

theorem careful_disconnect :
    Careful .disconnect registry outside (registry.disconnect host outside) := by
  rw [disconnect]
  split
  · exact careful_refuse _ registry outside _
  · exact careful_ok _ _

theorem careful_shutdown : Careful .shutdown registry outside (registry.shutdown host outside) := by
  rw [shutdown]
  split
  · exact careful_refuse _ registry outside _
  · exact careful_ok _ _

theorem careful_setMode (network : String) (mode : ManagerMode) :
    Careful (.setMode network mode) registry outside
      (registry.setMode host network mode outside) := by
  rw [setMode]
  split
  · exact careful_refuse _ registry outside _
  split
  · exact careful_refuse _ registry outside _
  split
  · dsimp only
    split
    · exact careful_ok _ _
    · -- What can still fail is the write to the store.
      exact careful_mapError _ (by rintro _ ⟨⟩) _
  · exact careful_refuse _ registry outside _

theorem careful_rescan (network : String) (depth : SyncDepth) :
    Careful (.rescan network depth) registry outside
      (registry.rescan host network depth outside) := by
  rw [rescan]
  split
  · split
    · exact careful_refuse _ registry outside _
    · exact careful_ok _ _
  · exact careful_refuse _ registry outside _

theorem careful_updateConnections (enabled : List CurrencyId) :
    Careful (.updateConnections enabled) registry outside
      (registry.updateConnections host enabled outside) := by
  rw [updateConnections]
  split
  · exact careful_ok _ _
  · exact careful_refuse _ registry outside _

theorem careful_draft (uid : CurrencyId) (address : String) (amount : Amount) (fee : FeeBasis) :
    Careful (.draft uid address amount fee) registry outside
      (registry.draft host uid address amount fee outside) := by
  rw [draft]
  split
  · exact careful_refuse _ registry outside _
  · exact careful_mapError _ (by rintro _ ⟨⟩) _

theorem careful_submit (uid : CurrencyId) (transfer : Transfer) (secret : Bytes) :
    Careful (.submit uid transfer secret) registry outside
      (registry.submit host uid transfer secret outside) := by
  rw [submit]
  split
  · exact careful_refuse _ registry outside _
  · split
    · exact careful_refuse _ registry outside _
    · exact careful_ok _ _

theorem careful_unsubscribe (uid : CurrencyId) (transfer : TransferId) :
    Careful (.unsubscribe uid transfer) registry outside
      (registry.unsubscribe uid transfer outside) := by
  rw [unsubscribe]
  split
  · exact careful_refuse _ registry outside _
  · exact careful_ok _ _

theorem careful_execute (command : Command) :
    Careful command registry outside (registry.execute host command outside) := by
  cases command with
  | create account => exact (careful_create host registry outside account).map _
  | connect => exact (careful_connect host registry outside).map _
  | disconnect => exact (careful_disconnect host registry outside).map _
  | shutdown => exact (careful_shutdown host registry outside).map _
  | setMode network mode => exact (careful_setMode host registry outside network mode).map _
  | rescan network depth => exact (careful_rescan host registry outside network depth).map _
  | updateConnections enabled =>
      exact (careful_updateConnections host registry outside enabled).map _
  | draft uid address amount fee =>
      exact (careful_draft host registry outside uid address amount fee).map _
  | submit uid transfer secret =>
      exact (careful_submit host registry outside uid transfer secret).map _
  | unsubscribe uid transfer => exact (careful_unsubscribe registry outside uid transfer).map _
  | snapshot => exact careful_ok _ _

end Requests

end Registry

/-! ### Runs -/

theorem Queue.fatal?_event_eq_some_iff {α : Type} {event : EngineEvent}
    {answer : Except RegistryError α} {broken : Violation} :
    fatal? (.event event) answer = some broken ↔ answer = .error (.violation broken) := by
  rcases answer with (_ | _ | _ | _ | _ | _ | _ | _ | _ | _) | _ <;> simp [fatal?]

namespace Scene

variable {config : Config} {scene : Scene W}

/-- In a session an event is refused, with everything left as it was, exactly if it
contradicts what is registered. -/
theorem Sound.event_cases (sound : scene.Sound config) (host : Host W)
    (initialized : scene.registry.lifecycle ≠ .uninitialized) (event : EngineEvent) :
    (scene.registry.Contradicts event ∧
        (∃ broken, scene.broken? host event = some broken) ∧
        scene.after host (.given (.event event)) = scene) ∨
      ¬scene.registry.Contradicts event ∧ scene.broken? host event = none := by
  obtain ⟨session, opened⟩ := Option.ne_none_iff_exists'.1 fun none =>
    initialized (sound.registry.session.1 none)
  rcases Registry.refusedIff_dispatch host event opened with
    ⟨contradicts, broken, refused⟩ | ⟨sensible, allowed⟩
  · exact .inl ⟨contradicts, ⟨broken, broken?_of_refuse initialized refused⟩,
      (event_of_dispatch initialized refused).1⟩
  · refine .inr ⟨sensible, ?_⟩
    rw [(event_of_dispatch initialized rfl).2, Option.eq_none_iff_forall_ne_some]
    exact fun broken fatal => allowed broken (Queue.fatal?_event_eq_some_iff.1 fatal)

/-- An event breaks an invariant exactly if there is a session and it contradicts what is
registered. -/
theorem Sound.broken_iff (sound : scene.Sound config) (host : Host W) (event : EngineEvent) :
    (∃ broken, scene.broken? host event = some broken) ↔
      scene.registry.lifecycle ≠ .uninitialized ∧ scene.registry.Contradicts event := by
  by_cases initialized : scene.registry.lifecycle = .uninitialized
  · rw [(event_of_uninitialized host initialized event).2]
    exact iff_of_false nofun fun contradicts => contradicts.1 initialized
  · rcases sound.event_cases host initialized event with
      ⟨contradicts, broken, -⟩ | ⟨sensible, unbroken⟩
    · exact iff_of_true broken ⟨initialized, contradicts⟩
    · rw [unbroken]
      exact iff_of_false nofun fun contradicts => sensible contradicts.2

end Scene

/-- Whatever happened before, a request or an event that is refused leaves everything as it
was; and in a session every event that contradicts what is registered is refused. -/
theorem refused_inputs_change_nothing (host : Host W) (config : Config) (world : W)
    (happenings : List (Happening W)) :
    let scene := (Scene.first config world).run host happenings
    (∀ input error, (scene.turn host input).answer = .error error → input.RefusedBy error →
        scene.after host (.given input) = scene) ∧
      ∀ event, scene.registry.lifecycle ≠ .uninitialized → scene.registry.Contradicts event →
        ∃ broken, (scene.turn host (.event event)).answer = .error (.violation broken) := by
  intro scene
  have sound : scene.Sound config := (Scene.Sound.first config world).run host happenings
  refine ⟨fun input error failed refused => ?_, fun event initialized contradicts => ?_⟩
  · cases input with
    | notice notice => cases refused
    | command command =>
        rcases Registry.careful_execute host scene.registry scene.outside command with
          ⟨registry, outside⟩ | allowed
        · exact (Scene.mk.injEq ..).mpr ⟨registry, outside⟩
        · exact absurd refused (allowed error failed)
    | event event =>
        by_cases closed : scene.registry.lifecycle = .uninitialized
        · exact (Scene.event_of_uninitialized host closed event).1
        rcases sound.event_cases host closed event with ⟨-, -, same⟩ | ⟨-, unbroken⟩
        · exact same
        · cases error with
          | violation broken =>
              cases unbroken.symm.trans (Queue.fatal?_event_eq_some_iff.2 failed)
          | _ => cases refused
  · rcases sound.event_cases host initialized event with
      ⟨-, ⟨broken, isBroken⟩, -⟩ | ⟨sensible, -⟩
    · exact ⟨broken, Queue.fatal?_event_eq_some_iff.1 isBroken⟩
    · exact absurd contradicts sensible

/-- A network that lists a currency twice is refused as a whole, and so is a request about
a network that has no manager. -/
theorem twice_listed_refused_bitcoin :
    let host := Host.granting .bitcoin fun _ => []
    let scene := (Scene.first .standard []).run host
      [.given (.command (.create "")), .given (.command .connect)]
    let twice := { Network.bitcoin with
      currencies := Network.bitcoin.currencies ++ Network.bitcoin.currencies }
    let report : Input := .event (.system (.networkAdded twice))
    let request : Input := .command (.setMode "bitcoin-mainnet" .apiOnly)
    (∃ broken, (scene.turn host report).answer = .error (.violation broken) ∧
        scene.after host (.given report) = scene) ∧
      (scene.turn host request).answer = .error (.unknownNetwork "bitcoin-mainnet") ∧
        scene.after host (.given request) = scene := by
  intro host scene twice report request
  obtain ⟨unchanged, refused⟩ := refused_inputs_change_nothing host .standard []
    [.given (.command (.create "")), .given (.command .connect)]
  have initialized : scene.registry.lifecycle ≠ .uninitialized := by decide +kernel
  have contradicts : scene.registry.Contradicts (.system (.networkAdded twice)) :=
    ⟨by decide +kernel, Network.bitcoin.currencies, _, [], rfl, .repeated (by decide)⟩
  have unknown : (scene.turn host request).answer = .error (.unknownNetwork "bitcoin-mainnet") :=
    rfl
  obtain ⟨broken, failed⟩ := refused _ initialized contradicts
  exact ⟨⟨broken, failed, unchanged report _ failed trivial⟩, unknown,
    unchanged request _ unknown trivial⟩

end MultiWallet
