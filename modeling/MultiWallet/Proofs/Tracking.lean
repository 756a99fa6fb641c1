import Mathlib.Data.List.Infix
import MultiWallet.Proofs.Sparing

/-!
The two records of how far the sync of a network is: the tracker's, and what is shown of each
wallet of the network. Both learn of the same reports. The tracker keeps what is reported between
nothing and all, and begins again with every sync; what is shown of a wallet is what was reported
last, also when that is no percentage at all, and also when it is left from the sync before. A sync
that fails leaves both where they are, and one that succeeds completes both.
-/

namespace MultiWallet

open Outside

variable {W : Type}

/-! ### Percentages -/

/-- Whether a number is neither below nothing nor above all. What is no number is neither. -/
def InRange (percent : Float) : Prop := ¬percent < 0 ∧ ¬100 < percent

namespace InRange

theorem zero : InRange 0 := ⟨by decide, by decide⟩

theorem hundred : InRange 100 := ⟨by decide, by decide⟩

theorem clampPercent (percent : Float) : InRange (NetworkProgress.clampPercent percent) := by
  rw [NetworkProgress.clampPercent]
  split
  · exact zero
  · rename_i notBelow
    split
    · exact hundred
    · rename_i notAbove
      exact ⟨notBelow, notAbove⟩

end InRange

theorem clampPercent_eq_self_iff {percent : Float} :
    NetworkProgress.clampPercent percent = percent ↔ InRange percent := by
  refine ⟨fun same => same ▸ .clampPercent percent, fun ⟨notBelow, notAbove⟩ => ?_⟩
  rw [NetworkProgress.clampPercent, if_neg notBelow, if_neg notAbove]

/-! ### Reports -/

/-- What is reported of a sync. -/
inductive SyncReport where
  | started
  | reached (percent : Float)
  | ended (failed : Bool)

namespace SyncReport

/-- The percentage that the tracker has after a report. -/
def track (percent : Float) : SyncReport → Float
  | started => 0
  | reached reported => NetworkProgress.clampPercent reported
  | ended failed => if failed then percent else 100

/-- The percentage that is shown of a wallet after a report. -/
def display (percent : Float) : SyncReport → Float
  | started => percent
  | reached reported => reported
  | ended failed => if failed then percent else 100

/-- Whether a report is a fair one while some percentage is shown: what is reported is one, and a
sync begins with nothing shown. -/
def IsFair (percent : Float) : SyncReport → Prop
  | started => percent = 0
  | reached reported => InRange reported
  | ended _ => True

theorem track_eq_display_iff (percent : Float) (report : SyncReport) :
    report.track percent = report.display percent ↔ report.IsFair percent := by
  cases report with
  | started => exact eq_comm
  | reached reported => exact clampPercent_eq_self_iff
  | ended failed => exact iff_of_true rfl trivial

theorem inRange_track {percent : Float} (h : InRange percent) (report : SyncReport) :
    InRange (report.track percent) := by
  cases report with
  | started => exact .zero
  | reached reported => exact .clampPercent reported
  | ended failed =>
      cases failed with
      | true => exact h
      | false => exact .hundred

end SyncReport

/-- What an event of a manager reports of the sync of its network. -/
def ManagerEvent.syncReport? : ManagerEvent → Option SyncReport
  | syncStarted => some .started
  | syncProgress percent _ => some (.reached percent)
  | syncEnded error => some (.ended error.isSome)
  | created | changed _ _ | deleted | walletAdded _ | walletChanged _ | walletDeleted _
  | blockUpdated _ => none

/-- What is reported of the sync of a network when something happens. -/
def Happening.syncReport? (network : String) : Happening W → Option SyncReport
  | given (.event (.manager manager event)) =>
    if manager.network.id = network then event.syncReport? else none
  | _ => none

theorem Happening.exists_of_syncReport? {network : String} {happening : Happening W}
    {report : SyncReport} (reports : happening.syncReport? network = some report) :
    ∃ manager event, happening = .given (.event (.manager manager event)) ∧
      manager.network.id = network ∧ event.syncReport? = some report := by
  rw [Happening.syncReport?.eq_def] at reports
  split at reports
  · rename_i manager event
    split at reports
    · exact ⟨manager, event, rfl, ‹_›, reports⟩
    · cases reports
  · cases reports

/-! ### The two records -/

namespace Scene

/-- How far a network is by the tracker's record. -/
def tracked (scene : Scene W) (network : String) : Float :=
  (scene.registry.progress.get network).percent

/-- What is shown of a wallet. -/
def shown? (scene : Scene W) (uid : CurrencyId) : Option WalletState :=
  (AppState.empty.applyAll scene.outside.actions).wallets[uid]?

/-- A wallet of a network is shown. -/
def Shows (network : String) (uid : CurrencyId) (scene : Scene W) : Prop :=
  ∃ wallet, scene.shown? uid = some wallet ∧ wallet.currency.networkId = network

/-- What holds of a scene at all times: its registry is sound and mirrored by what is shown, and
a fresh one without a session. -/
structure Coherent (config : Config) (scene : Scene W) : Prop where
  sound : scene.Sound config
  mirrored : scene.Mirrored
  vacant : scene.registry.lifecycle = .uninitialized → scene.registry = .fresh config

namespace Coherent

variable {config : Config} {scene : Scene W} {network : String} {uid : CurrencyId}
  {wallet : WalletState}

theorem first (config : Config) (world : W) : Coherent config (first config world) :=
  ⟨.first config world, .fresh config, fun _ => rfl⟩

theorem after (h : Coherent config scene) (host : Host W) (happening : Happening W) :
    Coherent config (scene.after host happening) :=
  ⟨h.sound.after host happening, h.mirrored.after h.sound host happening,
    h.sound.vacant_after h.vacant host happening⟩

theorem run (h : Coherent config scene) (host : Host W) (happenings : List (Happening W)) :
    Coherent config (scene.run host happenings) :=
  run_keeps (fun _ happening kept => kept.after host happening) h happenings

/-- What is shown is a wallet of a registered currency. -/
theorem registered (h : Coherent config scene) (shown : scene.shown? uid = some wallet) :
    scene.registry.currencies[uid]? = some wallet.currency := by
  have mirrors : (scene.shown? uid).map _ = _ := h.mirrored.wallets uid
  rw [shown] at mirrors
  obtain ⟨controller, found, same⟩ := Option.map_eq_some_iff.1 mirrors.symm
  rw [← same]
  exact h.sound.registry.enrolled uid controller found

theorem initialized (h : Coherent config scene) (shown : scene.shown? uid = some wallet) :
    scene.registry.lifecycle ≠ .uninitialized := by
  intro closed
  have found := h.registered shown
  rw [(h.sound.registry.vacant closed).1] at found
  simp at found

theorem mem_currenciesOf_iff (h : Coherent config scene)
    (shown : scene.shown? uid = some wallet) :
    uid ∈ scene.registry.currenciesOf network ↔ wallet.currency.networkId = network := by
  rw [h.sound.registry.mem_currenciesOf, h.registered shown]
  simp

end Coherent

/-! ### What is no report -/

/-- Something leaves a network alone if the tracker's record of it stays as it is, or is given up
with the session; and if each wallet of it that is shown afterwards was shown before and is as far
as it was, or else is a new one and begins with nothing. -/
structure Spares (network : String) (scene next : Scene W) : Prop where
  tracked : next.tracked network = scene.tracked network ∨ next.tracked network = 0 ∧
    next.registry.lifecycle = .uninitialized
  shown : ∀ uid wallet, next.shown? uid = some wallet → wallet.currency.networkId = network →
    (∃ old, scene.shown? uid = some old ∧ old.currency = wallet.currency ∧
      old.progress = wallet.progress) ∨ scene.shown? uid = none ∧ wallet.progress = 0

variable {config : Config} {scene : Scene W} {network : String} {uid : CurrencyId}
  {wallet : WalletState} {outside : Outside W}

theorem Spares.refl (network : String) (scene : Scene W) : scene.Spares network scene :=
  ⟨.inl rfl, fun _ wallet shown _ => .inl ⟨wallet, shown, rfl, rfl⟩⟩

theorem shown_of_plainly (plainly : Plainly scene.outside outside) {registry : Registry}
    (shown : (⟨registry, outside⟩ : Scene W).shown? uid = some wallet) :
    ∃ old, scene.shown? uid = some old ∧ old.currency = wallet.currency ∧
      old.progress = wallet.progress := by
  obtain ⟨actions, same, plain⟩ := plainly.exists_actions
  rw [shown?, same, AppState.applyAll_append] at shown
  exact AppState.shown_before plain shown

theorem spares_of_plain {α : Type} {turn : Turn W α}
    (plain : turn.Plain scene.registry scene.outside) (network : String) :
    scene.Spares network ⟨turn.registry, turn.outside⟩ where
  tracked := .inl (congrArg (fun progress => (progress.get network).percent) plain.progress)
  shown _ _ shown _ := .inl (shown_of_plainly plain.plainly shown)

/-- The tracker gives up its record with the session, and no wallet is shown afterwards that was
not shown before. -/
theorem Coherent.spares_shutdown (h : Coherent config scene) (host : Host W) (network : String) :
    scene.Spares network (scene.after host (.given (.command .shutdown))) := by
  have closed := uninitialized_after_shutdown host scene
  refine ⟨.inr ⟨?_, closed⟩, fun uid wallet shown _ => ?_⟩
  · rw [tracked, (h.after host _).vacant closed]
    rfl
  · exact .inl
      (shown_of_plainly (Registry.plainly_shutdown host scene.registry scene.outside) shown)

/-- A wallet that is added was not shown before, and begins with nothing. -/
theorem Coherent.spares_addWallet (h : Coherent config scene) (host : Host W)
    (manager : EngineManager) (wallet : EngineWallet) (network : String) :
    scene.Spares network
      ⟨(scene.registry.addWallet host manager wallet scene.outside).registry,
        (scene.registry.addWallet host manager wallet scene.outside).outside⟩ := by
  rw [Registry.addWallet]
  dsimp only
  split
  · exact .refl network scene
  · rename_i absent
    split
    · exact .refl network scene
    · rename_i currency known
      refine ⟨.inl rfl, fun uid shownWallet shown _ => ?_⟩
      have named : currency.uid = wallet.currency.uid := h.sound.registry.keyed _ _ known
      rw [shown?, (adds_publish h.sound.heard _).actions, AppState.applyAll_append] at shown
      change (AppState.apply _ (.walletAdded _ _ _)).wallets[uid]? = _ at shown
      rw [AppState.getElem?_apply rfl] at shown
      split at shown
      · rename_i same
        cases shown
        refine .inr ⟨?_, rfl⟩
        obtain rfl : wallet.currency.uid = uid := named.symm.trans same
        have mirrors : (scene.shown? wallet.currency.uid).map _ = _ :=
          h.mirrored.wallets wallet.currency.uid
        rw [Std.ExtTreeMap.getElem?_eq_none (by simpa using absent)] at mirrors
        exact Option.map_eq_none_iff.1 mirrors
      · exact .inl ⟨shownWallet, shown, rfl, rfl⟩

/-- The block that is seen last does not matter. -/
theorem tracked_recordBlock (scene : Scene W) (network other : String) (height : Nat) :
    ((scene.registry.progress.recordBlock network height).get other).percent =
      scene.tracked other := by
  rw [SyncProgress.recordBlock, SyncProgress.get_set]
  split
  · rename_i same
    rw [same]
    rfl
  · rfl

/-! ### Reports on a sync -/

/-- What is reported of a sync is news for every wallet of the network. -/
theorem exists_news {event : ManagerEvent} {report : SyncReport}
    (reports : event.syncReport? = some report) (manager : EngineManager) :
    ∃ news : SyncNews, news.network = manager.network.id ∧
      news.input = .event (.manager manager event) ∧
      (∀ network depth, news ≠ .rescan network depth) ∧
      ∀ wallet : WalletState, (wallet.apply news.change).currency = wallet.currency ∧
        (wallet.apply news.change).progress = report.display wallet.progress := by
  cases event with
  | syncStarted =>
      cases reports
      exact ⟨.started manager, rfl, rfl, nofun, fun _ => ⟨rfl, rfl⟩⟩
  | syncProgress percent timestamp =>
      cases reports
      exact ⟨.progress manager percent timestamp, rfl, rfl, nofun, fun _ => ⟨rfl, rfl⟩⟩
  | syncEnded error =>
      cases reports
      refine ⟨.ended manager error, rfl, rfl, nofun, fun _ => ?_⟩
      cases error <;> exact ⟨rfl, rfl⟩
  | created | changed | deleted | walletAdded | walletChanged | walletDeleted | blockUpdated =>
      cases reports

/-- A report changes what is shown of the wallets of its network, and of no other. -/
theorem Coherent.shown_after_report (h : Coherent config scene) (host : Host W)
    (manager : EngineManager) {event : ManagerEvent} {report : SyncReport}
    (reports : event.syncReport? = some report) :
    ∃ change : WalletChange,
      (∀ wallet : WalletState, (wallet.apply change).currency = wallet.currency ∧
        (wallet.apply change).progress = report.display wallet.progress) ∧
      ∀ uid, (scene.after host (.given (.event (.manager manager event)))).shown? uid =
        if uid ∈ scene.registry.currenciesOf manager.network.id
          then (scene.shown? uid).map (·.apply change) else scene.shown? uid := by
  obtain ⟨news, named, given, noRescan, effect⟩ := exists_news reports manager
  have published := h.sound.actions_turn host news fun network depth isRescan =>
    absurd isRescan (noRescan network depth)
  rw [named, given] at published
  refine ⟨news.change, effect, fun uid => ?_⟩
  rw [shown?, Scene.after, published, AppState.applyAll_append]
  exact AppState.getElem?_applyAll_changes
    (h.sound.registry.nodup_currenciesOf manager.network.id) news.change _ uid

/-- A report that is heard changes the tracker's record of its network, and of no other. -/
theorem tracked_after_report (host : Host W) (manager : EngineManager) {event : ManagerEvent}
    {report : SyncReport} (reports : event.syncReport? = some report)
    (initialized : scene.registry.lifecycle ≠ .uninitialized) (network : String) :
    (scene.after host (.given (.event (.manager manager event)))).tracked network =
      if manager.network.id = network then report.track (scene.tracked network)
      else scene.tracked network := by
  have recorded {value : NetworkProgress}
      (percent : value.percent = report.track (scene.tracked manager.network.id)) :
      ((scene.registry.progress.set manager.network.id value).get network).percent =
        if manager.network.id = network then report.track (scene.tracked network)
        else scene.tracked network := by
    rw [SyncProgress.get_set]
    split
    · rename_i same
      rw [percent, same]
    · rfl
  rw [(event_of_dispatch initialized rfl).1]
  cases event with
  | syncStarted =>
      cases reports
      exact recorded rfl
  | syncProgress percent timestamp =>
      cases reports
      exact recorded rfl
  | syncEnded error =>
      cases reports
      cases error <;> exact recorded rfl
  | created | changed | deleted | walletAdded | walletChanged | walletDeleted | blockUpdated =>
      cases reports

/-- A report on another network is not for the wallets of this one. -/
theorem Coherent.spares_report (h : Coherent config scene) (host : Host W)
    {manager : EngineManager} {event : ManagerEvent} {report : SyncReport}
    (reports : event.syncReport? = some report) (apart : manager.network.id ≠ network)
    (initialized : scene.registry.lifecycle ≠ .uninitialized) :
    scene.Spares network (scene.after host (.given (.event (.manager manager event)))) := by
  obtain ⟨change, effect, shows⟩ := h.shown_after_report host manager reports
  refine ⟨.inl ?_, fun uid wallet shown placed => ?_⟩
  · rw [tracked_after_report host manager reports initialized, if_neg apart]
  · rw [shows] at shown
    split at shown
    · rename_i mem
      obtain ⟨old, was, rfl⟩ := Option.map_eq_some_iff.1 shown
      rw [(effect old).1] at placed
      exact absurd (((h.mem_currenciesOf_iff was).1 mem).symm.trans placed) apart
    · exact .inl ⟨wallet, shown, rfl, rfl⟩

/-- What else a manager tells leaves its network alone, like all others. -/
theorem Coherent.spares_handleManager (h : Coherent config scene) (host : Host W)
    (manager : EngineManager) {event : ManagerEvent} (noReport : event.syncReport? = none)
    (network : String) :
    scene.Spares network
      ⟨(scene.registry.handleManager host manager event scene.outside).registry,
        (scene.registry.handleManager host manager event scene.outside).outside⟩ := by
  cases event with
  | syncStarted | syncProgress | syncEnded => cases noReport
  | walletAdded wallet => exact h.spares_addWallet host manager wallet network
  | walletDeleted wallet =>
      exact spares_of_plain
        (Registry.plain_removeWallet scene.registry scene.outside wallet) network
  | blockUpdated height =>
      exact ⟨.inl (scene.tracked_recordBlock _ network height),
        fun _ wallet shown _ => .inl ⟨wallet, shown, rfl, rfl⟩⟩
  | created | changed | deleted | walletChanged => exact .refl network scene

/-- What is no report on a network leaves it alone. -/
theorem Coherent.spares_after (h : Coherent config scene) (host : Host W)
    {happening : Happening W} (other : happening.syncReport? network = none) :
    scene.Spares network (scene.after host happening) := by
  cases happening with
  | meanwhile world receipts =>
      exact ⟨.inl rfl, fun _ wallet shown _ => .inl ⟨wallet, shown, rfl, rfl⟩⟩
  | given input =>
      cases input with
      | notice notice =>
          exact spares_of_plain
            ((Registry.plain_handleNotice host scene.registry scene.outside notice).map _) network
      | command command =>
          by_cases ends : command = .shutdown
          · rw [ends]
            exact h.spares_shutdown host network
          · exact spares_of_plain
              (Registry.plain_execute host scene.registry scene.outside ends) network
      | event event =>
          by_cases closed : scene.registry.lifecycle = .uninitialized
          · rw [(event_of_uninitialized host closed event).1]
            exact .refl network scene
          by_cases isManagers : ∃ manager news, event = .manager manager news
          · obtain ⟨manager, news, rfl⟩ := isManagers
            cases reports : news.syncReport? with
            | some report =>
                refine h.spares_report host reports (fun same => ?_) closed
                rw [Happening.syncReport?, if_pos same, reports] at other
                cases other
            | none =>
                rw [(event_of_dispatch closed rfl).1]
                exact h.spares_handleManager host manager reports network
          · rw [(event_of_dispatch closed rfl).1]
            exact spares_of_plain (Registry.plain_dispatch host scene.registry scene.outside
              fun manager news same => isManagers ⟨manager, news, same⟩) network

/-! ### Before the first report -/

/-- Nothing was reported of a network: the tracker has nothing, and no wallet is any further. -/
structure Unreported (network : String) (scene : Scene W) : Prop where
  tracked : scene.tracked network = 0
  shown : ∀ uid wallet, scene.shown? uid = some wallet → wallet.currency.networkId = network →
    wallet.progress = 0

theorem Coherent.unreported (h : Coherent config scene)
    (closed : scene.registry.lifecycle = .uninitialized) (network : String) :
    scene.Unreported network := by
  refine ⟨?_, fun _ _ shown _ => absurd closed (h.initialized shown)⟩
  rw [tracked, h.vacant closed]
  rfl

theorem Unreported.of_spares {next : Scene W} (h : scene.Unreported network)
    (spares : scene.Spares network next) : next.Unreported network where
  tracked := by
    rcases spares.tracked with same | ⟨givenUp, -⟩
    · rw [same, h.tracked]
    · exact givenUp
  shown uid wallet shown placed := by
    rcases spares.shown uid wallet shown placed with ⟨old, was, sameCurrency, same⟩ | ⟨-, isNew⟩
    · rw [← same]
      exact h.shown uid old was (sameCurrency ▸ placed)
    · exact isNew

theorem Unreported.run (h : scene.Unreported network) (coherent : Coherent config scene)
    (host : Host W) {happenings : List (Happening W)}
    (others : ∀ happening ∈ happenings, happening.syncReport? network = none) :
    (scene.run host happenings).Unreported network := by
  induction happenings generalizing scene with
  | nil => exact h
  | cons happening rest ih =>
      obtain ⟨other, others⟩ := List.forall_mem_cons.1 others
      exact ih (h.of_spares (coherent.spares_after host other)) (coherent.after host happening)
        others

/-! ### From the first report on -/

/-- What the two records have of a network and of a wallet of it. -/
structure Records (network : String) (uid : CurrencyId) (tracked displayed : Float)
    (scene : Scene W) : Prop where
  tracked : scene.tracked network = tracked
  shown : ∃ wallet, scene.shown? uid = some wallet ∧ wallet.currency.networkId = network ∧
    wallet.progress = displayed

variable {tracked displayed : Float}

/-- Both records follow the report, if something is one. -/
theorem Records.after (h : scene.Records network uid tracked displayed)
    (coherent : Coherent config scene) (host : Host W) {happening : Happening W}
    (shows : (scene.after host happening).Shows network uid) :
    (scene.after host happening).Records network uid
      ((happening.syncReport? network).elim tracked (·.track tracked))
      ((happening.syncReport? network).elim displayed (·.display displayed)) := by
  obtain ⟨same, old, was, placed, percent⟩ := h
  cases reports : happening.syncReport? network with
  | none =>
      have spares := coherent.spares_after host reports
      obtain ⟨wallet, shown, placed⟩ := shows
      refine ⟨?_, wallet, shown, placed, ?_⟩
      · rcases spares.tracked with kept | ⟨-, closed⟩
        · exact kept.trans same
        · exact absurd closed ((coherent.after host happening).initialized shown)
      · rcases spares.shown uid wallet shown placed with ⟨other, isOld, -, kept⟩ | ⟨absent, -⟩
        · cases was.symm.trans isOld
          exact kept.symm.trans percent
        · cases was.symm.trans absent
  | some report =>
      obtain ⟨manager, event, rfl, here, reports⟩ := Happening.exists_of_syncReport? reports
      obtain ⟨change, effect, told⟩ := coherent.shown_after_report host manager reports
      refine ⟨?_, old.apply change, ?_, ?_, ?_⟩
      · rw [tracked_after_report host manager reports (coherent.initialized was), if_pos here, same]
        rfl
      · rw [told, here, if_pos ((coherent.mem_currenciesOf_iff was).2 placed), was]
        rfl
      · rw [(effect old).1, placed]
      · rw [(effect old).2, percent]
        rfl

theorem Records.run (h : scene.Records network uid tracked displayed)
    (coherent : Coherent config scene) (host : Host W) {happenings : List (Happening W)}
    (shows : ∀ earlier later, happenings = earlier ++ later →
      (scene.run host earlier).Shows network uid) :
    (scene.run host happenings).Records network uid
      ((happenings.filterMap (·.syncReport? network)).foldl SyncReport.track tracked)
      ((happenings.filterMap (·.syncReport? network)).foldl SyncReport.display displayed) := by
  induction happenings generalizing scene tracked displayed with
  | nil => exact h
  | cons happening rest ih =>
      have next := ih (h.after coherent host (shows [happening] rest rfl))
        (coherent.after host happening) fun earlier later split =>
          shows (happening :: earlier) later (by rw [split]; rfl)
      rw [run_cons, List.filterMap_cons]
      cases reports : happening.syncReport? network <;> rw [reports] at next <;> exact next

/-- What is shown of a wallet is the percentage that the tracker has. -/
def Agrees (network : String) (uid : CurrencyId) (scene : Scene W) : Prop :=
  (scene.shown? uid).map (·.progress) = some (scene.tracked network)

theorem Records.agrees_iff (h : scene.Records network uid tracked displayed) :
    scene.Agrees network uid ↔ tracked = displayed := by
  obtain ⟨rfl, wallet, shown, -, rfl⟩ := h
  rw [Agrees, shown, Option.map_some, Option.some_inj, eq_comm]

/-- What is reported of the network is fair for the wallet, if anything is. -/
def Fair (network : String) (uid : CurrencyId) (scene : Scene W) (happening : Happening W) :
    Prop :=
  ∀ report, happening.syncReport? network = some report →
    ∀ wallet, scene.shown? uid = some wallet → report.IsFair wallet.progress

/-- As long as the records agree, they go on to do so exactly if what is reported is fair. -/
theorem Records.agrees_after_iff (h : scene.Records network uid tracked tracked)
    (coherent : Coherent config scene) (host : Host W) {happening : Happening W}
    (shows : (scene.after host happening).Shows network uid) :
    (scene.after host happening).Agrees network uid ↔ scene.Fair network uid happening := by
  rw [(h.after coherent host shows).agrees_iff, Fair]
  obtain ⟨-, wallet, shown, -, rfl⟩ := h
  cases happening.syncReport? network with
  | none => exact iff_of_true rfl nofun
  | some report => simpa [shown] using report.track_eq_display_iff wallet.progress

end Scene

open Scene in
/-- The tracker's record of a network and what is shown of a wallet of it, from before the first
report on a sync in a session on, and for as long as the wallet is shown: the tracker has been told
the reports so far and is never out of range; what is shown has been told the same reports, but
neither keeps them in range nor begins again with a sync. So the two agree all along exactly if
each report is fair when it comes, that is in range if it is a percentage, and if it is the
beginning of a sync, one that finds nothing shown. -/
theorem sync_records_agree_iff_fair (host : Host W) (config : Config) (world : W)
    (network : String) (uid : CurrencyId) (past sitting lasting : List (Happening W)) :
    let closed := (Scene.first config world).run host past
    let start := closed.run host sitting
    closed.registry.lifecycle = .uninitialized →
      (∀ happening ∈ sitting, happening.syncReport? network = none) →
      (∀ earlier later, lasting = earlier ++ later →
        (start.run host earlier).Shows network uid) →
      (∀ earlier later, lasting = earlier ++ later →
        let reached := start.run host earlier
        let reports := earlier.filterMap (·.syncReport? network)
        reached.tracked network = reports.foldl SyncReport.track 0 ∧
          (reached.shown? uid).map (·.progress) = some (reports.foldl SyncReport.display 0) ∧
          InRange (reached.tracked network)) ∧
        ((∀ earlier later, lasting = earlier ++ later →
            (start.run host earlier).Agrees network uid) ↔
          start.Each host (Scene.Fair network uid) lasting) := by
  intro closed start isClosed others shows
  have coherentClosed : Coherent config closed := (Coherent.first config world).run host past
  have coherent : Coherent config start := coherentClosed.run host sitting
  have begins : start.Records network uid 0 0 := by
    have unreported : start.Unreported network :=
      (coherentClosed.unreported isClosed network).run coherentClosed host others
    obtain ⟨wallet, shown, placed⟩ := shows [] lasting rfl
    exact ⟨unreported.tracked, wallet, shown, placed, unreported.shown uid wallet shown placed⟩
  constructor
  · intro earlier later split reached reports
    have records : reached.Records network uid (reports.foldl SyncReport.track 0)
        (reports.foldl SyncReport.display 0) :=
      begins.run coherent host fun before after split' =>
        shows before (after ++ later) (by rw [split, split', List.append_assoc])
    refine ⟨records.tracked, ?_, records.tracked ▸ ?_⟩
    · obtain ⟨wallet, shown, -, percent⟩ := records.shown
      rw [show reached.shown? uid = _ from shown, Option.map_some, percent]
    · exact List.foldlRecOn _ SyncReport.track .zero fun percent h report _ =>
        SyncReport.inRange_track h report
  · have lasts : Each host (fun scene happening => (scene.after host happening).Shows network uid)
        start lasting := by
      rintro earlier happening later split
      have next := shows (earlier ++ [happening]) later (by rw [split, List.append_assoc]; rfl)
      rw [run_append] at next
      exact next
    -- Where they agree, both have the same percentage.
    refine run_always_iff_while
      (I := fun scene => Coherent config scene ∧ ∃ tracked displayed,
        scene.Records network uid tracked displayed)
      (fun scene happening i shows => ⟨i.1.after host happening, ?_⟩) ?_ ⟨coherent, 0, 0, begins⟩
      (begins.agrees_iff.2 rfl) lasts
    · obtain ⟨coherent, tracked, displayed, records⟩ := i
      exact ⟨_, _, records.after coherent host shows⟩
    · rintro scene happening ⟨coherent, tracked, displayed, records⟩ shows agrees
      obtain rfl := records.agrees_iff.1 agrees
      exact records.agrees_after_iff coherent host shows

/-! ### A network with one wallet -/

namespace Scene

instance (network : String) (uid : CurrencyId) (scene : Scene W) :
    Decidable (scene.Shows network uid) :=
  decidable_of_iff ((scene.shown? uid).any (·.currency.networkId == network) = true) (by
    simp [Shows, Option.any_eq_true])

instance (network : String) (uid : CurrencyId) (scene : Scene W) :
    Decidable (scene.Agrees network uid) :=
  inferInstanceAs (Decidable (_ = _))

/-- A session with one wallet, of whose network nothing was reported yet. -/
def withBitcoin : Scene (List EngineEvent) :=
  (Scene.first .standard []).run (.granting .bitcoin fun _ => [])
    [.given (.command (.create "")), .given (.command .connect),
      .given (.event (.system (.networkAdded .bitcoin))),
      .given (.event (.system (.managerAdded ⟨0, .bitcoin⟩))),
      .given (.event (.manager ⟨0, .bitcoin⟩
        (.walletAdded ⟨0, ⟨Network.bitcoin.currency, "btc", "Bitcoin", .native⟩⟩)))]

end Scene

/-- A first sync that gets half of the way and then succeeds is shown as it is tracked. -/
theorem first_sync_agrees :
    let host := Host.granting .bitcoin fun _ => []
    let uid := Network.bitcoin.currency
    let lasting : List (Happening (List EngineEvent)) :=
      [.given (.event (.manager ⟨0, .bitcoin⟩ .syncStarted)),
        .given (.event (.manager ⟨0, .bitcoin⟩ (.syncProgress 50 none))),
        .given (.event (.manager ⟨0, .bitcoin⟩ (.syncEnded none)))]
    (∀ earlier later, lasting = earlier ++ later →
      (Scene.withBitcoin.run host earlier).Agrees "bitcoin-mainnet" uid) ∧
      (Scene.withBitcoin.run host lasting).tracked "bitcoin-mainnet" = 100 := by
  intro host uid lasting
  have shown : ∀ earlier ∈ lasting.inits,
      (Scene.withBitcoin.run host earlier).Shows "bitcoin-mainnet" uid := by decide +kernel
  obtain ⟨records, agree⟩ := sync_records_agree_iff_fair host .standard [] "bitcoin-mainnet" uid []
    [.given (.command (.create "")), .given (.command .connect),
      .given (.event (.system (.networkAdded .bitcoin))),
      .given (.event (.system (.managerAdded ⟨0, .bitcoin⟩))),
      .given (.event (.manager ⟨0, .bitcoin⟩
        (.walletAdded ⟨0, ⟨Network.bitcoin.currency, "btc", "Bitcoin", .native⟩⟩)))] lasting
    rfl (by simp [Happening.syncReport?, ManagerEvent.syncReport?])
    (fun earlier later split =>
      shown earlier ((List.mem_inits earlier lasting).2 ⟨later, split.symm⟩))
  refine ⟨agree.2 ?_, (records lasting [] (List.append_nil _).symm).1⟩
  -- The wallet begins with nothing, and half of all is in range.
  have begins : (Scene.withBitcoin.shown? uid).map (·.progress) = some 0 := by decide +kernel
  refine Scene.each_cons.2 ⟨?_, Scene.each_cons.2 ⟨?_, Scene.each_cons.2 ⟨?_, Scene.each_nil⟩⟩⟩
  · rintro report ⟨⟩ wallet isShown
    rw [show Scene.withBitcoin.shown? uid = _ from isShown] at begins
    exact Option.some.inj begins
  · rintro report ⟨⟩ wallet -
    exact ⟨by decide, by decide⟩
  · rintro report ⟨⟩ wallet -
    trivial

/-- A wallet that was there before the first sync shows all of it when the second one begins, and
more than all when more is reported; the tracker does not. -/
theorem old_percent_shown_in_next_sync :
    let host := Host.granting .bitcoin fun _ => []
    let uid := Network.bitcoin.currency
    let told (events : List ManagerEvent) : Scene (List EngineEvent) :=
      Scene.withBitcoin.run host (events.map fun event =>
        .given (.event (.manager ⟨0, .bitcoin⟩ event)))
    let again : List ManagerEvent := [.syncStarted, .syncEnded none, .syncStarted]
    let beyond : List ManagerEvent := [.syncStarted, .syncProgress 150 none]
    (∀ events ∈ again.inits ++ beyond.inits, (told events).Shows "bitcoin-mainnet" uid) ∧
      ((told again).shown? uid).map (·.progress) = some 100 ∧
      (told again).tracked "bitcoin-mainnet" = 0 ∧
      ((told beyond).shown? uid).map (·.progress) = some 150 ∧
      (told beyond).tracked "bitcoin-mainnet" = 100 ∧
      ¬(told again).Agrees "bitcoin-mainnet" uid ∧
      ¬(told beyond).Agrees "bitcoin-mainnet" uid := by
  decide +kernel

end MultiWallet
