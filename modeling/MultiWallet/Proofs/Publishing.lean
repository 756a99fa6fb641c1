import MultiWallet.Proofs.Announcing
import MultiWallet.Proofs.Registering

/-!
The transfers that are shown of a wallet. What the engine knows of them is cut down to what
is visible and put in the order of time, by a sort that leaves alone what is of one time.
Whenever an event tells of a transfer, the whole list is published anew; so what is shown
from then on is what the controller lists at that moment, and no other wallet is touched.
-/

namespace MultiWallet

open Outside

variable {W : Type}

/-! ### The order of time -/

namespace Instant

theorem compare_eq_compareLex : (Ord.compare : Instant → Instant → Ordering) =
    compareLex (compareOn year) (compareLex (compareOn month) (compareLex (compareOn day)
      (compareLex (compareOn hour) (compareLex (compareOn minute)
        (compareLex (compareOn second) (compareOn nano)))))) := rfl

instance : Std.TransOrd Instant := by
  change Std.TransCmp (Ord.compare : Instant → Instant → Ordering)
  rw [compare_eq_compareLex]
  infer_instance

theorem daysInMonth_le (year : Int) (month : Nat) : Time.daysInMonth year month ≤ 31 := by
  rw [Time.daysInMonth]
  split
  · split <;> decide
  · split <;> decide

/-- Outside of leap seconds nothing is later than the last instant. -/
theorem isLE_compare_last {t : Instant} (regular : t.second ≤ 59) :
    (Ord.compare t last).isLE := by
  obtain ⟨⟨-, year⟩, ⟨-, month⟩, ⟨-, day⟩, hour, minute, -, nano⟩ := t.valid
  have day : t.day ≤ 31 := Nat.le_trans day (daysInMonth_le t.year t.month)
  have nano : t.nano ≤ 999999999 := by omega
  -- No field is larger than that of the last instant, so the first that differs is smaller.
  have onward {a b : Ordering} (first : a.isLE) (others : b.isLE) : (a.then b).isLE := by
    cases a with
    | lt => rfl
    | eq => exact others
    | gt => cases first
  rw [compare_eq_compareLex]
  exact onward (Int.isLE_compare.2 year) <| onward (Nat.isLE_compare.2 month) <|
    onward (Nat.isLE_compare.2 day) <| onward (Nat.isLE_compare.2 hour) <|
    onward (Nat.isLE_compare.2 minute) <| onward (Nat.isLE_compare.2 regular)
      (Nat.isLE_compare.2 nano)

end Instant

namespace Transfer

/-- Whether a transfer is shown: it is not deleted, nor is it an outgoing one that was only
created or signed. -/
def IsShown (transfer : Transfer) : Prop :=
  transfer.state ≠ .deleted ∧
    ¬(transfer.direction = .sent ∧ (transfer.state = .created ∨ transfer.state = .signed))

instance : DecidablePred IsShown := fun _ => inferInstanceAs (Decidable (_ ∧ _))

theorem isVisible_iff (transfer : Transfer) : transfer.isVisible = true ↔ transfer.IsShown := by
  rw [isVisible, IsShown]
  cases transfer.state <;> simp

/-- A list shows transfers if it consists of those that are to be shown, by times that do not
ascend, where one without a time counts as the latest; those of one time stand as they
stood. -/
structure Shows (known shown : List Transfer) : Prop where
  perm : shown.Perm (known.filter IsShown)
  descending : shown.Pairwise fun earlier later =>
    (compare (later.timestamp.getD .last) (earlier.timestamp.getD .last)).isLE
  stable : ∀ time : Instant, shown.filter (·.timestamp.getD .last = time) =
    (known.filter IsShown).filter (·.timestamp.getD .last = time)

theorem noOlder_trans (first second third : Transfer) (h : noOlder first second = true)
    (h' : noOlder second third = true) : noOlder first third = true :=
  Std.TransCmp.isLE_trans h' h

theorem noOlder_total (left right : Transfer) :
    (noOlder left right || noOlder right left) = true := by
  have swapped : compare right.sortTime left.sortTime =
      (compare left.sortTime right.sortTime).swap := Std.OrientedOrd.eq_swap
  rw [noOlder, noOlder, swapped, Ordering.isLE_swap]
  cases compare left.sortTime right.sortTime <;> rfl

theorem newestFirst_eq (known : List Transfer) :
    newestFirst known = (known.filter IsShown).mergeSort noOlder := by
  rw [newestFirst]
  refine congrArg (List.mergeSort · noOlder) (List.filter_congr fun transfer _ => ?_)
  rw [Bool.eq_iff_iff, isVisible_iff, decide_eq_true_iff]

theorem perm_newestFirst (known : List Transfer) :
    (newestFirst known).Perm (known.filter IsShown) :=
  newestFirst_eq known ▸ List.mergeSort_perm _ _

/-- Transfers of one time are in order before they are sorted, so the sort keeps them in
theirs; and it puts no others among them. -/
theorem filter_newestFirst (known : List Transfer) (time : Instant) :
    (newestFirst known).filter (·.sortTime = time) =
      (known.filter IsShown).filter (·.sortTime = time) := by
  have inOrder : ((known.filter IsShown).filter (·.sortTime = time)).Pairwise
      fun left right => noOlder left right = true := by
    refine List.Pairwise.imp_of_mem (R := fun _ _ => True) ?_ (List.pairwise_of_forall (by simp))
    intro left right mem mem' _
    have leftTime := of_decide_eq_true (List.mem_filter.1 mem).2
    have rightTime := of_decide_eq_true (List.mem_filter.1 mem').2
    rw [noOlder, leftTime, rightTime, Std.ReflOrd.compare_self]
    rfl
  have sublist : ((known.filter IsShown).filter (·.sortTime = time)).Sublist
      (newestFirst known) := by
    rw [newestFirst_eq]
    exact List.sublist_mergeSort noOlder_trans noOlder_total inOrder List.filter_sublist
  have within := sublist.filter (·.sortTime = time)
  rw [List.filter_filter] at within
  simp only [Bool.and_self] at within
  exact (within.eq_of_length ((perm_newestFirst known).filter _).length_eq.symm).symm

/-- What is listed shows what is known. -/
theorem shows_newestFirst (known : List Transfer) : Shows known (newestFirst known) where
  perm := perm_newestFirst known
  descending := by
    rw [newestFirst]
    exact List.pairwise_mergeSort noOlder_trans noOlder_total _
  stable := filter_newestFirst known

end Transfer

/-! ### Publishing -/

namespace Outside

/-- Nothing was published in between. -/
abbrev Mutely (before after : Outside W) : Prop :=
  OnlyAdds (fun effect => effect.action? = none) before after

theorem Mutely.actions {before after : Outside W} (h : Mutely before after) :
    after.actions = before.actions := by
  obtain ⟨effects, added, mute⟩ := h
  rw [added.actions, List.filterMap_eq_nil_iff.2 mute, List.append_nil]

/-- Nothing was published in between, and the world was left alone. -/
structure Silent (before after : Outside W) : Prop where
  world : after.world = before.world
  mutely : Mutely before after

namespace Silent

theorem refl (outside : Outside W) : Silent outside outside := ⟨rfl, .refl outside⟩

theorem trans {first second third : Outside W} (h : Silent first second)
    (h' : Silent second third) : Silent first third :=
  ⟨h'.world.trans h.world, h.mutely.trans h'.mutely⟩

theorem log (outside : Outside W) (level : LogLevel) (message : String) :
    Silent outside (outside.log level message) :=
  ⟨rfl, (outside.adds_log level message).only (by simp [Effect.action?])⟩

theorem modifyReceipt (outside : Outside W) (id : ReceiptId) (change : Receipt → Receipt) :
    Silent outside (outside.modifyReceipt id change) :=
  ⟨rfl, (outside.adds_modifyReceipt id change).only (by simp)⟩

end Silent

end Outside

namespace WalletController

variable {host : Host W} {controller : WalletController} {outside : Outside W}

theorem silent_resolve (controller : WalletController) (transfer : TransferId) (success : Bool)
    (outside : Outside W) : Silent outside (controller.resolve transfer success outside).2 := by
  rw [resolve]
  split
  · exact .refl outside
  · rename_i pending _
    split
    · dsimp only
      split
      · exact .modifyReceipt outside pending.receipt _
      · exact (Silent.modifyReceipt outside pending.receipt _).trans (.log _ _ _)
    · exact .refl outside

theorem silent_heedTransferState (controller : WalletController) (transfer : TransferId)
    (old new : TransferState) (outside : Outside W) :
    Silent outside (controller.heedTransferState transfer old new outside).2 := by
  cases new with
  | submitted =>
      refine Silent.trans ?_ (silent_resolve controller transfer true _)
      split
      · exact .refl outside
      · exact .log outside _ _
  | failed reason =>
      exact (Silent.log outside _ _).trans (silent_resolve controller transfer false _)
  | created | signed | pending | included | deleted => exact .refl outside

/-- What was done is the same controller's, apart from the submission that it awaits, and of
actions there is just one: it publishes the transfers that the controller lists. -/
structure Publishes (host : Host W) (controller : WalletController) (outside : Outside W)
    (done : WalletController × Outside W) : Prop where
  bare : done.1.bare = controller.bare
  world : done.2.world = outside.world
  actions : done.2.actions = outside.actions ++
    [.walletChanged controller.currency.uid (.transfers (controller.transfers host outside.world))]

theorem transfers_of_bare {other : WalletController} (same : other.bare = controller.bare)
    (host : Host W) (world : W) : other.transfers host world = controller.transfers host world := by
  rw [transfers, transfers, wallet_eq_of_bare same]

/-- It is enough to be silent until the transfers are published. -/
theorem publishes_of_silent (heard : outside.isHeard = true)
    (done : WalletController × Outside W) (same : done.1.bare = controller.bare)
    (silent : Silent outside done.2) :
    Publishes host controller outside (done.1, done.1.publishTransfers host done.2) := by
  have heard := silent.mutely.isHeard.trans heard
  have published := adds_publish heard
    (.walletChanged done.1.currency.uid (.transfers (done.1.transfers host done.2.world)))
  refine ⟨same, ?_, ?_⟩
  · rw [publishTransfers, publish, if_pos heard]
    exact silent.world
  · rw [publishTransfers, published.actions, silent.mutely.actions, currency_eq_of_bare same,
      transfers_of_bare same, silent.world]
    rfl

end WalletController

/-- Whether an event of a wallet tells of a transfer. -/
def WalletEvent.TellsOfTransfer : WalletEvent → Prop
  | transferAdded _ | transferChanged _ | transferDeleted _ | transferSubmitted _ _ => True
  | created | changed | deleted | balanceUpdated _ | feeBasisUpdated => False

namespace WalletController

variable {host : Host W} {controller : WalletController} {outside : Outside W}

theorem publishes_heedWalletEvent (heard : outside.isHeard = true) {event : WalletEvent}
    (tells : event.TellsOfTransfer) :
    Publishes host controller outside (controller.heedWalletEvent host event outside) := by
  cases event with
  | transferSubmitted transfer success =>
      exact publishes_of_silent heard _
        (onlyNews_resolve controller transfer.id success outside).1
        (silent_resolve controller transfer.id success outside)
  | transferAdded | transferChanged | transferDeleted =>
      exact publishes_of_silent heard (controller, outside) rfl (.refl outside)
  | created | changed | deleted | balanceUpdated | feeBasisUpdated => exact tells.elim

theorem publishes_heedTransferEvent (heard : outside.isHeard = true) (transfer : TransferId)
    (event : TransferEvent) :
    Publishes host controller outside
      (controller.heedTransferEvent host transfer event outside) := by
  cases event with
  | changed old new =>
      exact publishes_of_silent heard _
        (onlyNews_heedTransferState controller transfer old new outside).1
        (silent_heedTransferState controller transfer old new outside)
  | created | deleted =>
      exact publishes_of_silent heard (controller, outside) rfl (.refl outside)

end WalletController

/-! ### Events about transfers -/

/-- An event tells of a transfer of a wallet. -/
inductive EngineEvent.TellsOf (wallet : EngineWallet) : EngineEvent → Prop
  | wallet (manager : EngineManager) {event : WalletEvent} :
      event.TellsOfTransfer → TellsOf wallet (.wallet manager wallet event)
  | transfer (manager : EngineManager) (transfer : Transfer) (event : TransferEvent) :
      TellsOf wallet (.transfer manager wallet transfer event)

namespace Registry

variable {registry : Registry} {outside : Outside W}

/-- What the controller of a registered wallet does is done. -/
theorem withController_of_some {wallet : EngineWallet} {controller : WalletController}
    (found : registry.wallets[wallet.currency.uid]? = some controller)
    (heed : WalletController → Outside W → WalletController × Outside W) :
    registry.withController wallet heed outside =
      ⟨.ok (), registry.withWallet wallet.currency.uid (heed controller outside).1,
        (heed controller outside).2⟩ := by
  rw [withController]
  dsimp only
  rw [found]

end Registry

namespace Scene

variable {config : Config} {scene : Scene W}

/-- After any run the registry is mirrored. -/
theorem Mirrored.run (host : Host W) (config : Config) (world : W)
    (happenings : List (Happening W)) : ((first config world).run host happenings).Mirrored :=
  (run_keeps (P := fun scene => scene.Sound config ∧ scene.Mirrored)
    (fun _ happening h => ⟨h.1.after host happening, h.2.after h.1 host happening⟩)
    ⟨.first config world, .fresh config⟩ happenings).2

/-- An event that tells of a transfer of a registered wallet has its transfers published, and
changes nothing about the wallet but the submission that is awaited. -/
theorem Sound.publishes_after (sound : scene.Sound config) (host : Host W)
    {wallet : EngineWallet} {event : EngineEvent} (tells : event.TellsOf wallet)
    {controller : WalletController}
    (found : scene.registry.wallets[wallet.currency.uid]? = some controller) :
    ∃ done : WalletController × Outside W,
      WalletController.Publishes host controller scene.outside done ∧
        scene.after host (.given (.event event)) =
          ⟨scene.registry.withWallet wallet.currency.uid done.1, done.2⟩ := by
  have opened : scene.registry.lifecycle ≠ .uninitialized := by
    intro closed
    rw [(sound.registry.vacant closed).2.2] at found
    simp at found
  cases tells with
  | @wallet manager event tells =>
      have dispatched : scene.registry.dispatch host (.wallet manager wallet event) scene.outside =
          scene.registry.withController wallet (·.heedWalletEvent host event ·) scene.outside := by
        cases event with
        | created | changed | deleted => exact tells.elim
        | _ => rfl
      exact ⟨controller.heedWalletEvent host event scene.outside,
        WalletController.publishes_heedWalletEvent sound.heard tells,
        (event_of_dispatch opened
          (dispatched.trans (Registry.withController_of_some found _))).1⟩
  | transfer manager transfer event =>
      have handled : scene.registry.dispatch host (.transfer manager wallet transfer event)
          scene.outside = _ :=
        Registry.withController_of_some found (·.heedTransferEvent host transfer.id event ·)
      exact ⟨controller.heedTransferEvent host transfer.id event scene.outside,
        WalletController.publishes_heedTransferEvent sound.heard transfer.id event,
        (event_of_dispatch opened handled).1⟩

end Scene

/-- What a controller lists shows what the engine knows of its wallet at that moment: the
transfers that are neither deleted nor outgoing ones that were only created or signed, by times
that do not ascend, where one without a time counts as the latest, and those of one time as the
engine has them. In any run, whenever an event tells of a transfer of a registered wallet, what is
shown of that wallet from then on is what its controller lists then; nothing else is changed of
what is shown of it, and nothing of any other wallet. -/
theorem transfers_shown (host : Host W) (config : Config) (world : W)
    (happenings : List (Happening W)) :
    (∀ (controller : WalletController) (world : W),
      Transfer.Shows (host.transfersOf controller.wallet world)
        (controller.transfers host world)) ∧
      (∀ time : Instant, time.second ≤ 59 → (compare time .last).isLE) ∧
      let scene := (Scene.first config world).run host happenings
      ∀ (wallet : EngineWallet) (event : EngineEvent), event.TellsOf wallet →
        ∀ controller, scene.registry.wallets[wallet.currency.uid]? = some controller →
          let next := scene.after host (.given (.event event))
          let before := AppState.empty.applyAll scene.outside.actions
          let after := AppState.empty.applyAll next.outside.actions
          ∃ controller' shown, next.registry.wallets[wallet.currency.uid]? = some controller' ∧
            controller'.bare = controller.bare ∧
            before.wallets[wallet.currency.uid]? = some shown ∧
            after.wallets[wallet.currency.uid]? =
              some { shown with transfers := controller'.transfers host next.outside.world } ∧
            ∀ other : CurrencyId, other ≠ wallet.currency.uid →
              after.wallets[other]? = before.wallets[other]? := by
  refine ⟨fun controller world => Transfer.shows_newestFirst _,
    fun time => Instant.isLE_compare_last, ?_⟩
  intro scene wallet event tells controller found next before after
  have sound : scene.Sound config := (Scene.Sound.first config world).run host happenings
  have mirrored : scene.Mirrored := .run host config world happenings
  obtain ⟨done, published, same⟩ := sound.publishes_after host tells found
  have named : controller.currency.uid = wallet.currency.uid :=
    sound.registry.keyed _ _ (sound.registry.enrolled _ _ found)
  obtain ⟨shown, isShown, -⟩ : ∃ shown, before.wallets[wallet.currency.uid]? = some shown ∧
      shown.currency = controller.currency := by
    have mirrors := mirrored.wallets wallet.currency.uid
    rw [found] at mirrors
    exact Option.map_eq_some_iff.1 mirrors
  -- The one action is about this wallet and replaces its transfers.
  have applied : after = before.apply (.walletChanged wallet.currency.uid
      (.transfers (done.1.transfers host next.outside.world))) := by
    have world : next.outside.world = scene.outside.world :=
      (congrArg (·.outside.world) same).trans published.world
    have actions : next.outside.actions = scene.outside.actions ++
        [.walletChanged wallet.currency.uid
          (.transfers (done.1.transfers host next.outside.world))] := by
      rw [world, WalletController.transfers_of_bare published.bare, ← named]
      exact (congrArg (·.outside.actions) same).trans published.actions
    exact (congrArg AppState.empty.applyAll actions).trans (AppState.applyAll_append _ _ _)
  refine ⟨done.1, shown, ?_, published.bare, isShown, ?_, fun other apart => ?_⟩
  · rw [show next = _ from same]
    exact Std.ExtTreeMap.getElem?_insert_self
  · rw [applied, AppState.getElem?_apply rfl, if_pos rfl, isShown]
    rfl
  · rw [applied, AppState.getElem?_apply rfl, if_neg (Ne.symm apart)]

/-- Of three transfers the one that was deleted is not shown, and the other two are shown with
the one first that has no time yet. -/
theorem bitcoin_transfers_shown :
    let uid := Network.bitcoin.currency
    let wallet : EngineWallet := ⟨0, ⟨uid, "btc", "Bitcoin", .native⟩⟩
    let manager : EngineManager := ⟨0, .bitcoin⟩
    let transfer (name : String) (state : TransferState) (time : Option Instant) : Transfer :=
      ⟨⟨name⟩, none, state, .received, .zero uid, time, ⟨""⟩⟩
    let old := transfer "old" .included (some .epoch)
    let new := transfer "new" .pending none
    let host := { Host.granting .bitcoin fun _ => [] with
      transfersOf := fun _ _ => [old, transfer "gone" .deleted none, new] }
    let scene := (Scene.first .standard []).run host
      [.given (.command (.create "")), .given (.command .connect),
        .given (.event (.system (.networkAdded .bitcoin))),
        .given (.event (.system (.managerAdded manager))),
        .given (.event (.manager manager (.walletAdded wallet)))]
    let next := scene.after host (.given (.event (.wallet manager wallet (.transferAdded new))))
    (AppState.empty.applyAll next.outside.actions).wallets[uid]?.map (·.transfers) =
      some [new, old] := by
  intro uid wallet manager transfer old new host scene next
  obtain ⟨controller, found⟩ : ∃ controller, scene.registry.wallets[uid]? = some controller :=
    Table.mem_iff_exists.1 (by decide +kernel)
  obtain ⟨-, -, published⟩ := transfers_shown host .standard []
    [.given (.command (.create "")), .given (.command .connect),
      .given (.event (.system (.networkAdded .bitcoin))),
      .given (.event (.system (.managerAdded manager))),
      .given (.event (.manager manager (.walletAdded wallet)))]
  obtain ⟨controller', shown, -, -, -, after, -⟩ :=
    published wallet (.wallet manager wallet (.transferAdded new)) (.wallet manager trivial)
      controller found
  have visible : [old, transfer "gone" .deleted none, new].filter Transfer.IsShown =
      [old, new] := by decide
  have listed : controller'.transfers host next.outside.world = [new, old] := by
    change Transfer.newestFirst [old, transfer "gone" .deleted none, new] = _
    rw [Transfer.newestFirst_eq, visible]
    have isOlder : Transfer.noOlder old new = false := by decide
    simp [List.mergeSort, isOlder]
  rw [after, listed]
  rfl

end MultiWallet
