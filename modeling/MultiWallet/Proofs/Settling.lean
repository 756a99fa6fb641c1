import MultiWallet.Proofs.Journal
import MultiWallet.Proofs.Ledger

/-!
What turns make of receipts. Each turn leaves them as its input decides about them,
and the ledger goes on to hold; a submission adds one entry to it, or is refused
because the pending one is still awaited.
-/

namespace MultiWallet

open Outside

variable {W : Type}

theorem steady_receipts (host : Host W) : Outside.Steady host (fun _ => True)
    fun before after : Outside W => after.receipts = before.receipts where
  refl _ := rfl
  trans h h' := h'.trans h
  note _ _ _ := rfl
  told _ _ _ _ := rfl
  world _ _ _ := rfl

namespace WalletController

/-! ### Controllers -/

variable {controller : WalletController} {outside : Outside W} {pending : PendingSend}

theorem resolve_of_ne {transfer : TransferId}
    (other : ∀ pending, controller.pending = some pending → pending.transfer ≠ transfer)
    (success : Bool) : controller.resolve transfer success outside = (controller, outside) := by
  rw [resolve]
  split
  · rfl
  · rename_i pending isPending
    rw [if_neg (other pending isPending)]

theorem decided_resolve (isPending : controller.pending = some pending)
    (waits : outside.receipts.status? pending.receipt = some .waiting) (success : Bool) :
    (controller.resolve pending.transfer success outside).1 = { controller with pending := none } ∧
      outside.receipts.Decided (controller.resolve pending.transfer success outside).2.receipts
        pending.receipt (.settled (.of pending.transfer success)) := by
  obtain ⟨receipt, found, status⟩ := Receipts.status?_eq_some_iff.1 waits
  rw [resolve, isPending]
  dsimp only
  rw [if_pos rfl, Receipts.isAwaited, found]
  refine ⟨rfl, ?_⟩
  split
  · rename_i awaited
    have held : receipt.isHeld = true := by
      rw [Option.any_some, Receipt.isAwaited, Bool.and_eq_true] at awaited
      exact awaited.1
    exact Receipts.decided_modify found (Receipt.settle_eq_decide _ held)
  · rename_i awaited
    have notHeld : receipt.isHeld = false := by
      simpa [Receipt.isAwaited, status] using awaited
    exact Receipts.decided_modify found (Receipt.close_eq_decide_of_not_held notHeld _)

theorem subscribe_of_awaited (awaited : controller.awaited? outside.receipts = some pending)
    (transfer : TransferId) : controller.subscribe transfer outside =
      .error (.sendAlreadyPending controller.currency.uid pending.transfer) := by
  rw [subscribe, awaited]

theorem subscribe_of_free (free : controller.awaited? outside.receipts = none)
    (transfer : TransferId) : ∃ aside : Outside W,
      controller.subscribe transfer outside =
        .ok (outside.receipts.nextId,
          { controller with pending := some ⟨transfer, outside.receipts.nextId⟩ },
          { aside with receipts := aside.receipts.issue }) ∧
      aside.receipts = (closePending controller.pending outside).receipts ∧
      OnlyAdds (·.command? = none) outside aside := by
  have logged : ∃ lines : Outside W, lines.receipts = outside.receipts ∧
      OnlyAdds (·.command? = none) outside lines ∧
      controller.subscribe transfer outside =
        .ok ((closePending controller.pending lines).receipts.nextId,
          { controller with
            pending := some ⟨transfer, (closePending controller.pending lines).receipts.nextId⟩ },
          { closePending controller.pending lines with
            receipts := (closePending controller.pending lines).receipts.issue }) := by
    rw [subscribe, free]
    cases controller.pending with
    | none => exact ⟨outside, rfl, .refl outside, rfl⟩
    | some abandoned =>
        exact ⟨outside.log .debug
            ("Replacing abandoned send subscription for " ++ abandoned.transfer.text), rfl,
          ⟨_, outside.adds_log _ _, by simp [Effect.command?]⟩, rfl⟩
  obtain ⟨lines, receipts, only, subscribed⟩ := logged
  have closed : (closePending controller.pending lines).receipts =
      (closePending controller.pending outside).receipts := by
    cases controller.pending with
    | none => exact receipts
    | some pending => rw [closePending, closePending, modifyReceipt, modifyReceipt, receipts]
  have sameId : (closePending controller.pending lines).receipts.nextId =
      outside.receipts.nextId := by
    rw [closed]
    cases controller.pending with
    | none => rfl
    | some pending => simp [closePending, modifyReceipt, Receipts.modify, Receipts.nextId]
  rw [sameId] at subscribed
  refine ⟨closePending controller.pending lines, subscribed, closed, only.trans ?_⟩
  cases controller.pending with
  | none => exact .refl lines
  | some pending => exact ⟨_, lines.adds_modifyReceipt pending.receipt .close, by simp⟩

end WalletController

/-! ### Turns -/

namespace Ledger

open WalletController

variable {entries : List (CurrencyId × TransferId)} {registry : Registry} {outside : Outside W}
  {input : Input}

/-- A turn that leaves wallets and receipts alone, by an input that decides nothing. -/
theorem heeds_of_calm (ledger : Ledger entries registry outside.receipts) {α : Type}
    {turn : Turn W α}
    (calm : Turn.Calm (fun before after : Outside W => after.receipts = before.receipts)
      registry outside turn)
    (idle : ∀ uid id, registry.pending? uid ≠ none →
      input.decision? uid id = none ∧ input.submitsFrom uid = false) :
    Heeds entries input outside.receipts turn.registry turn.outside.receipts := by
  rw [calm.kept]
  refine ledger.heeds_of_same (fun uid => ?_) fun uid pending receipt found _ => ?_
  · rw [Registry.pending?, calm.wallets]
    rfl
  · obtain ⟨undecided, submitsNot⟩ := idle uid pending.transfer (by simp [found])
    exact Receipt.heed_of_none undecided (by simp [submitsNot])

/-- An input about one wallet, which is not there. -/
theorem heeds_of_missing (ledger : Ledger entries registry outside.receipts) {uid : CurrencyId}
    (missing : registry.wallets[uid]? = none)
    (elsewhere : ∀ other id, other ≠ uid → input.decision? other id = none ∧
      input.submitsFrom other = false) :
    Heeds entries input outside.receipts registry outside.receipts := by
  refine ledger.heeds_of_same (fun _ => rfl) fun other pending receipt known _ => ?_
  have ne : other ≠ uid := by
    rintro rfl
    rw [Registry.pending?_of_missing missing] at known
    cases known
  obtain ⟨undecided, submitsNot⟩ := elsewhere other pending.transfer ne
  exact Receipt.heed_of_none undecided (by simp [submitsNot])

/-- A wallet keeps what is pending, since the input does not decide about it. -/
theorem heeds_of_kept (ledger : Ledger entries registry outside.receipts) {uid : CurrencyId}
    {controller controller' : WalletController} (found : registry.wallets[uid]? = some controller)
    (kept : controller'.pending = controller.pending)
    (idle : ∀ pending, controller.pending = some pending →
      input.decision? uid pending.transfer = none ∧ input.submitsFrom uid = false)
    (elsewhere : ∀ other id, other ≠ uid → input.decision? other id = none ∧
      input.submitsFrom other = false) :
    Heeds entries input outside.receipts (registry.withWallet uid controller')
      outside.receipts := by
  have here := Registry.pending?_of_found found
  refine ledger.heeds_of_same (Registry.pending?_withWallet_of_same (kept.trans here.symm))
    fun other pending receipt known _ => ?_
  have undecided : input.decision? other pending.transfer = none ∧
      input.submitsFrom other = false := by
    by_cases same : other = uid
    · subst same
      exact idle pending (here.symm.trans known)
    · exact elsewhere other _ same
  exact Receipt.heed_of_none undecided.1 (by simp [undecided.2])

/-- The pending submission of a wallet is given up. -/
theorem heeds_of_closed (ledger : Ledger entries registry outside.receipts) {uid : CurrencyId}
    {pending : PendingSend} (known : registry.pending? uid = some pending)
    (closes : ∀ receipt, outside.receipts.get? pending.receipt = some receipt →
      receipt.heed uid pending.transfer input = receipt.close)
    (elsewhere : ∀ other id, other ≠ uid → input.decision? other id = none ∧
      input.submitsFrom other = false) {after : Registry}
    (gone : ∀ other, after.pending? other = if other = uid then none else registry.pending? other) :
    Heeds entries input outside.receipts after
      (closePending (some pending) outside).receipts := by
  obtain ⟨receipt, there, -⟩ :=
    Receipts.status?_eq_some_iff.1 (ledger.pending uid pending known).2
  exact ledger.heeds_of_one known (by decide)
    (Receipts.decided_modify there receipt.close_eq_decide)
    (fun receipt there => (closes receipt there).trans receipt.close_eq_decide) elsewhere gone

/-- What the controller of a wallet makes of an input that decides about one transfer
of the wallet. -/
theorem heeds_resolve (ledger : Ledger entries registry outside.receipts) {wallet : EngineWallet}
    {transfer : TransferId} {success : Bool}
    {handle : WalletController → Outside W → WalletController × Outside W}
    (resolves : ∀ controller, ∃ aside : Outside W, aside.receipts = outside.receipts ∧
      (handle controller outside).1 = (controller.resolve transfer success aside).1 ∧
      (handle controller outside).2.receipts =
        (controller.resolve transfer success aside).2.receipts)
    (decides : ∀ uid id, input.decision? uid id =
      if wallet.currency.uid = uid ∧ transfer = id then some (.settled (.of id success)) else none)
    (submitsNot : ∀ uid, input.submitsFrom uid = false) :
    Heeds entries input outside.receipts
      (registry.withController wallet handle outside).registry
      (registry.withController wallet handle outside).outside.receipts := by
  have elsewhere (other : CurrencyId) (id : TransferId) (ne : other ≠ wallet.currency.uid) :
      input.decision? other id = none ∧ input.submitsFrom other = false :=
    ⟨(decides other id).trans (if_neg fun same => ne same.1.symm), submitsNot other⟩
  rw [Registry.withController]
  split
  · rename_i missing
    exact ledger.heeds_of_missing missing elsewhere
  · rename_i controller found
    obtain ⟨aside, receipts, registered, settled⟩ := resolves controller
    dsimp only
    rw [registered, settled]
    by_cases concerned : ∃ pending, controller.pending = some pending ∧ pending.transfer = transfer
    · obtain ⟨pending, isPending, rfl⟩ := concerned
      have known := (Registry.pending?_of_found found).trans isPending
      have waits := (ledger.pending _ pending known).2
      obtain ⟨resolved, decided⟩ := decided_resolve isPending (receipts ▸ waits) success
      rw [receipts] at decided
      rw [resolved]
      exact ledger.heeds_of_one known (by simp) decided
        (fun receipt _ => Receipt.heed_of_decision ((decides _ _).trans (if_pos ⟨rfl, rfl⟩)))
        elsewhere fun other => Registry.pending?_withWallet registry _ other _
    · have other : ∀ pending, controller.pending = some pending → pending.transfer ≠ transfer :=
        fun pending isPending same => concerned ⟨pending, isPending, same⟩
      rw [resolve_of_ne other, receipts]
      exact ledger.heeds_of_kept found rfl (fun pending isPending =>
        ⟨(decides _ _).trans (if_neg fun same => other pending isPending same.2.symm),
          submitsNot _⟩) elsewhere

theorem heeds_unresolved (ledger : Ledger entries registry outside.receipts)
    {wallet : EngineWallet}
    {handle : WalletController → Outside W → WalletController × Outside W}
    (leaves : ∀ controller, (handle controller outside).1 = controller ∧
      (handle controller outside).2.receipts = outside.receipts)
    (idle : ∀ uid id, input.decision? uid id = none ∧ input.submitsFrom uid = false) :
    Heeds entries input outside.receipts
      (registry.withController wallet handle outside).registry
      (registry.withController wallet handle outside).outside.receipts := by
  rw [Registry.withController]
  split
  · rename_i missing
    exact ledger.heeds_of_missing missing fun other id _ => idle other id
  · rename_i controller found
    obtain ⟨same, receipts⟩ := leaves controller
    dsimp only
    rw [same, receipts]
    exact ledger.heeds_of_kept found rfl (fun pending _ => idle _ pending.transfer)
      fun other id _ => idle other id

theorem heeds_wallet (ledger : Ledger entries registry outside.receipts) (host : Host W)
    (manager : EngineManager) (wallet : EngineWallet) (event : WalletEvent) :
    Heeds entries (.event (.wallet manager wallet event)) outside.receipts
      (registry.handleWallet host wallet event outside).registry
      (registry.handleWallet host wallet event outside).outside.receipts := by
  have steady := steady_receipts host
  have published (controller : WalletController) (outside : Outside W) :
      (controller.publishTransfers host outside).receipts = outside.receipts :=
    steady.publish outside _
  cases event with
  | transferSubmitted transfer success =>
      exact ledger.heeds_resolve (fun controller => ⟨outside, rfl, rfl, published _ _⟩)
        (fun _ _ => rfl) fun _ => rfl
  | created | changed | deleted =>
      exact ledger.heeds_of_calm ⟨rfl, rfl⟩ fun _ _ _ => ⟨rfl, rfl⟩
  | transferAdded | transferChanged | transferDeleted =>
      exact ledger.heeds_unresolved (fun controller => ⟨rfl, published _ _⟩) fun _ _ => ⟨rfl, rfl⟩
  | balanceUpdated balance =>
      exact ledger.heeds_unresolved (fun controller => ⟨rfl, steady.publish _ _⟩)
        fun _ _ => ⟨rfl, rfl⟩
  | feeBasisUpdated =>
      exact ledger.heeds_unresolved (fun controller => ⟨rfl, rfl⟩) fun _ _ => ⟨rfl, rfl⟩

theorem heeds_transfer (ledger : Ledger entries registry outside.receipts) (host : Host W)
    (manager : EngineManager) (wallet : EngineWallet) (transfer : Transfer)
    (event : TransferEvent) :
    Heeds entries (.event (.transfer manager wallet transfer event)) outside.receipts
      (registry.withController wallet (·.heedTransferEvent host transfer.id event ·)
        outside).registry
      (registry.withController wallet (·.heedTransferEvent host transfer.id event ·)
        outside).outside.receipts := by
  have published (controller : WalletController) (outside : Outside W) :
      (controller.publishTransfers host outside).receipts = outside.receipts :=
    (steady_receipts host).publish outside _
  cases event with
  | created | deleted =>
      exact ledger.heeds_unresolved (fun controller => ⟨rfl, published _ _⟩) fun _ _ => ⟨rfl, rfl⟩
  | changed old new =>
      cases new with
      | submitted =>
          refine ledger.heeds_resolve (fun controller => ⟨if old = .signed then outside
            else outside.log .debug ("Transfer " ++ transfer.id.text ++ " submitted from state "
              ++ old.description), ?_, rfl, published _ _⟩) (fun _ _ => rfl) fun _ => rfl
          split <;> rfl
      | failed reason =>
          exact ledger.heeds_resolve (fun controller => ⟨outside.log .warn
            ("Transfer " ++ transfer.id.text ++ " failed: " ++ reason), rfl, rfl, published _ _⟩)
            (fun _ _ => rfl) fun _ => rfl
      | created | signed | pending | included | deleted =>
          exact ledger.heeds_unresolved (fun controller => ⟨rfl, published _ _⟩)
            fun _ _ => ⟨rfl, rfl⟩

theorem heeds_unsubscribe (ledger : Ledger entries registry outside.receipts) (uid : CurrencyId)
    (transfer : TransferId) :
    Heeds entries (.command (.unsubscribe uid transfer)) outside.receipts
      (registry.unsubscribe uid transfer outside).registry
      (registry.unsubscribe uid transfer outside).outside.receipts := by
  have elsewhere (other : CurrencyId) (id : TransferId) (ne : other ≠ uid) :
      Input.decision? other id (.command (.unsubscribe uid transfer)) = none ∧
        Input.submitsFrom other (.command (.unsubscribe uid transfer)) = false :=
    ⟨if_neg fun same => ne same.1.symm, rfl⟩
  rw [Registry.unsubscribe]
  split
  · rename_i missing
    exact ledger.heeds_of_missing missing elsewhere
  · rename_i controller found
    rw [WalletController.unsubscribe]
    by_cases concerned : ∃ pending, controller.pending = some pending ∧ pending.transfer = transfer
    · obtain ⟨pending, isPending, rfl⟩ := concerned
      have known := (Registry.pending?_of_found found).trans isPending
      rw [isPending, if_pos (by simp)]
      have decides : Input.decision? uid pending.transfer
          (.command (.unsubscribe uid pending.transfer)) = some .closed := if_pos ⟨rfl, rfl⟩
      exact ledger.heeds_of_closed known (fun receipt _ =>
        (Receipt.heed_of_decision decides).trans receipt.close_eq_decide.symm) elsewhere
        fun other => Registry.pending?_withWallet registry uid other _
    · have untouched : ¬controller.pending.any (·.transfer == transfer) = true := by
        intro any
        obtain ⟨pending, isPending, same⟩ := (Option.any_eq_true _ _).1 any
        exact concerned ⟨pending, isPending, beq_iff_eq.1 same⟩
      rw [if_neg untouched]
      exact ledger.heeds_of_kept found rfl (fun pending isPending =>
        ⟨if_neg fun same => concerned ⟨pending, isPending, same.2.symm⟩, rfl⟩) elsewhere

theorem heeds_removeWallet (ledger : Ledger entries registry outside.receipts) (host : Host W)
    (manager : EngineManager) (wallet : EngineWallet) :
    Heeds entries (.event (.manager manager (.walletDeleted wallet))) outside.receipts
      (registry.removeWallet wallet outside).registry
      (registry.removeWallet wallet outside).outside.receipts := by
  have elsewhere (other : CurrencyId) (id : TransferId) (ne : other ≠ wallet.currency.uid) :
      Input.decision? other id (.event (.manager manager (.walletDeleted wallet))) = none ∧
        Input.submitsFrom other (.event (.manager manager (.walletDeleted wallet))) = false :=
    ⟨if_neg (Ne.symm ne), rfl⟩
  rw [Registry.removeWallet]
  split
  · rename_i missing
    exact ledger.heeds_of_missing missing elsewhere
  · rename_i controller found
    have known := Registry.pending?_of_found found
    have gone := Registry.pending?_erase registry wallet.currency.uid
    have published (outside : Outside W) : (outside.publish
        (.walletRemoved wallet.currency.uid)).receipts = outside.receipts :=
      (steady_receipts host).publish outside _
    dsimp only
    rw [published]
    cases isPending : controller.pending with
    | none =>
        refine ledger.heeds_of_same (fun other => ?_) fun other pending receipt given _ => ?_
        · rw [gone]
          split
          · rename_i same
            rw [same, known, isPending]
          · rfl
        · refine Receipt.heed_of_none (elsewhere other _ ?_).1 (by simp [Input.submitsFrom])
          rintro rfl
          rw [known, isPending] at given
          cases given
    | some pending =>
        have decides : Input.decision? wallet.currency.uid pending.transfer
            (.event (.manager manager (.walletDeleted wallet))) = some .closed := if_pos rfl
        exact ledger.heeds_of_closed (known.trans isPending) (fun receipt _ =>
          (Receipt.heed_of_decision decides).trans receipt.close_eq_decide.symm) elsewhere gone

section Closing

theorem length_closePending (pending : Option PendingSend) (outside : Outside W) :
    (closePending pending outside).receipts.list.length = outside.receipts.list.length := by
  cases pending with
  | none => rfl
  | some pending => simp [closePending, modifyReceipt, Receipts.modify]

theorem get?_closePending_self (pending : PendingSend) (outside : Outside W) :
    (closePending (some pending) outside).receipts.get? pending.receipt =
      (outside.receipts.get? pending.receipt).map (·.close) :=
  Receipts.get?_modify_self outside.receipts pending.receipt _

theorem get?_closePending_of_ne {pending : Option PendingSend} {id : ReceiptId}
    (free : ∀ given, pending = some given → given.receipt ≠ id) (outside : Outside W) :
    (closePending pending outside).receipts.get? id = outside.receipts.get? id := by
  cases pending with
  | none => rfl
  | some given => exact Receipts.get?_modify_of_ne (free given rfl) _

/-- The receipts after those of some wallets were closed. -/
private abbrev closed (controllers : List (CurrencyId × WalletController))
    (outside : Outside W) : Receipts :=
  (controllers.foldl (fun outside (_, controller) => closePending controller.pending outside)
    outside).receipts

variable (controllers : List (CurrencyId × WalletController)) (outside : Outside W)

theorem length_closed :
    (closed controllers outside).list.length = outside.receipts.list.length := by
  induction controllers generalizing outside with
  | nil => rfl
  | cons entry rest ih => exact (ih _).trans (length_closePending entry.2.pending outside)

theorem get?_closed_of_free {id : ReceiptId} (free : ∀ entry ∈ controllers, ∀ pending,
    entry.2.pending = some pending → pending.receipt ≠ id) :
    (closed controllers outside).get? id = outside.receipts.get? id := by
  induction controllers generalizing outside with
  | nil => rfl
  | cons entry rest ih =>
      obtain ⟨first, others⟩ := List.forall_mem_cons.1 free
      exact (ih _ others).trans (get?_closePending_of_ne first outside)

/-- A receipt that is closed stays so. -/
theorem get?_closed_of_closed {id : ReceiptId} {receipt : Receipt}
    (found : outside.receipts.get? id = some receipt.close) :
    (closed controllers outside).get? id = some receipt.close := by
  induction controllers generalizing outside with
  | nil => exact found
  | cons entry rest ih =>
      refine ih _ ?_
      change (closePending entry.2.pending outside).receipts.get? id = _
      by_cases now : ∃ given, entry.2.pending = some given ∧ given.receipt = id
      · obtain ⟨given, isGiven, rfl⟩ := now
        rw [isGiven, get?_closePending_self, found, Option.map_some, receipt.close_close]
      · rw [get?_closePending_of_ne fun given isGiven same => now ⟨given, isGiven, same⟩]
        exact found

theorem get?_closed_of_mem {entry : CurrencyId × WalletController} (mem : entry ∈ controllers)
    {pending : PendingSend} (isPending : entry.2.pending = some pending) {receipt : Receipt}
    (found : outside.receipts.get? pending.receipt = some receipt) :
    (closed controllers outside).get? pending.receipt = some receipt.close := by
  induction controllers generalizing outside with
  | nil => cases mem
  | cons first rest ih =>
      by_cases now : ∃ given, first.2.pending = some given ∧ given.receipt = pending.receipt
      · obtain ⟨given, isGiven, same⟩ := now
        refine get?_closed_of_closed rest _ ?_
        change (closePending first.2.pending outside).receipts.get? _ = _
        rw [isGiven, ← same, get?_closePending_self, same, found]
        rfl
      · have later : entry ∈ rest := (List.mem_cons.1 mem).resolve_left fun same =>
          now ⟨pending, same ▸ isPending, rfl⟩
        refine ih _ later ?_
        change (closePending first.2.pending outside).receipts.get? _ = _
        rw [get?_closePending_of_ne fun given isGiven same => now ⟨given, isGiven, same⟩]
        exact found

end Closing

/-- Closing the receipts of all wallets closes each pending one. -/
theorem get?_closed_of_pending (ledger : Ledger entries registry outside.receipts)
    {uid : CurrencyId} {pending : PendingSend} (found : registry.pending? uid = some pending) :
    (closed registry.wallets.toList outside).get? pending.receipt =
      (outside.receipts.get? pending.receipt).map (·.close) := by
  obtain ⟨controller, known, isPending⟩ := Option.bind_eq_some_iff.1 found
  obtain ⟨receipt, there, -⟩ :=
    Receipts.status?_eq_some_iff.1 (ledger.pending uid pending found).2
  have mem := Std.ExtTreeMap.mem_toList_iff_getElem?_eq_some.2 known
  rw [get?_closed_of_mem _ _ mem isPending there, there]
  rfl

theorem heeds_shutdown (ledger : Ledger entries registry outside.receipts)
    (vacant : registry.lifecycle = .uninitialized → registry.wallets = ∅) (host : Host W) :
    Heeds entries (.command .shutdown) outside.receipts
      (registry.shutdown host outside).registry
      (registry.shutdown host outside).outside.receipts := by
  rw [Registry.shutdown]
  split
  · rename_i uninitialized
    refine ledger.heeds_of_calm ⟨rfl, rfl⟩ fun uid id known => absurd ?_ known
    rw [Registry.pending?, vacant uninitialized]
    simp
  · have stopped : (registry.session.elim outside (outside.stop host)).receipts =
        outside.receipts := by
      cases registry.session <;> rfl
    have published (outside : Outside W) : (outside.publish .reset).receipts = outside.receipts :=
      (steady_receipts host).publish outside _
    dsimp only
    rw [published, ← stopped]
    generalize registry.session.elim outside (outside.stop host) = outside at stopped
    rw [← stopped] at ledger
    change Heeds entries _ _ _ (closed registry.wallets.toList outside)
    refine ledger.heeds (length_closed _ _) (fun uid pending found => ?_) (fun receipt free => ?_)
      fun uid => ?_
    · rw [ledger.get?_closed_of_pending found]
      refine congrArg (Option.map · _) (funext fun receipt => ?_)
      rw [Receipt.close_eq_decide, Receipt.heed_of_decision rfl]
    · refine get?_closed_of_free _ _ fun entry mem pending isPending => free entry.1 pending ?_
      exact (Registry.pending?_of_found
        (Std.ExtTreeMap.mem_toList_iff_getElem?_eq_some.1 mem)).trans isPending
    · cases found : registry.pending? uid with
      | none => simp [Registry.pending?, Registry.fresh]
      | some pending =>
          rw [Option.filter_some, if_neg]
          · simp [Registry.pending?, Registry.fresh]
          · rw [Receipts.status?, ledger.get?_closed_of_pending found, Option.map_map]
            intro waits
            obtain ⟨old, -, waits⟩ := Option.map_eq_some_iff.1 (of_decide_eq_true waits)
            exact old.status_close_ne_waiting waits

end Ledger

namespace Registry

open WalletController

variable {registry : Registry} {outside : Outside W} {uid : CurrencyId}
  {controller : WalletController}

theorem submit_of_awaited (host : Host W) (found : registry.wallets[uid]? = some controller)
    {pending : PendingSend} (awaited : controller.awaited? outside.receipts = some pending)
    (transfer : Transfer) (secret : Bytes) : registry.submit host uid transfer secret outside =
      registry.refuse outside
        (.violation (.sendAlreadyPending controller.currency.uid pending.transfer)) := by
  rw [submit, found]
  simp only [subscribe_of_awaited awaited]

theorem submit_of_free (host : Host W) (found : registry.wallets[uid]? = some controller)
    (free : controller.awaited? outside.receipts = none) (transfer : Transfer) (secret : Bytes) :
    ∃ aside : Outside W, registry.submit host uid transfer secret outside =
        ⟨.ok outside.receipts.nextId, registry.withWallet uid
            { controller with pending := some ⟨transfer.id, outside.receipts.nextId⟩ },
          WalletController.submit host
            { controller with pending := some ⟨transfer.id, outside.receipts.nextId⟩ }
            transfer secret { aside with receipts := aside.receipts.issue }⟩ ∧
      aside.receipts = (closePending controller.pending outside).receipts ∧
      OnlyAdds (·.command? = none) outside aside := by
  obtain ⟨aside, subscribed, receipts, only⟩ := subscribe_of_free free transfer.id
  refine ⟨aside, ?_, receipts, only⟩
  rw [submit, found]
  simp only [subscribed]

end Registry

namespace Ledger

open WalletController

variable {entries : List (CurrencyId × TransferId)} {registry : Registry} {outside : Outside W}

theorem submit_elsewhere {uid other : CurrencyId} (ne : other ≠ uid) (id : TransferId)
    (transfer : Transfer) (secret : Bytes) :
    Input.decision? other id (.command (.submit uid transfer secret)) = none ∧
      Input.submitsFrom other (.command (.submit uid transfer secret)) = false :=
  ⟨rfl, beq_eq_false_iff_ne.2 (Ne.symm ne)⟩

/-- A submission is refused while the pending one is awaited, which is left alone. -/
theorem heeds_awaited (ledger : Ledger entries registry outside.receipts) {uid : CurrencyId}
    {controller : WalletController} (found : registry.wallets[uid]? = some controller)
    {pending : PendingSend} (awaited : controller.awaited? outside.receipts = some pending)
    (transfer : Transfer) (secret : Bytes) :
    Heeds entries (.command (.submit uid transfer secret)) outside.receipts registry
      outside.receipts := by
  obtain ⟨isPending, held⟩ := Option.filter_eq_some_iff.1 awaited
  have known := (Registry.pending?_of_found found).trans isPending
  refine ledger.heeds_of_same (fun _ => rfl) fun other pending' receipt known' there =>
    Receipt.heed_of_none rfl fun submits => ?_
  obtain rfl : uid = other := beq_iff_eq.1 submits
  obtain rfl := Option.some.inj (known.symm.trans known')
  rw [Receipts.isAwaited, there, Option.any_some, Receipt.isAwaited, Bool.and_eq_true] at held
  exact held.1

/-- A submission first gives up the receipt that nobody waits for. -/
theorem heeds_released (ledger : Ledger entries registry outside.receipts) {uid : CurrencyId}
    {controller : WalletController} (found : registry.wallets[uid]? = some controller)
    (free : controller.awaited? outside.receipts = none) (transfer : Transfer) (secret : Bytes) :
    Heeds entries (.command (.submit uid transfer secret)) outside.receipts
      (registry.withWallet uid { controller with pending := none })
      (closePending controller.pending outside).receipts := by
  have known := Registry.pending?_of_found found
  cases isPending : controller.pending with
  | none =>
      refine ledger.heeds_of_same (Registry.pending?_withWallet_of_same
        (known.trans isPending).symm) fun other pending receipt given _ => ?_
      have ne : other ≠ uid := by
        rintro rfl
        rw [known, isPending] at given
        cases given
      obtain ⟨undecided, submitsNot⟩ := submit_elsewhere ne pending.transfer transfer secret
      exact Receipt.heed_of_none undecided (by simp [submitsNot])
  | some pending =>
      rw [isPending] at known
      refine ledger.heeds_of_closed known (fun receipt there => ?_)
        (fun other id ne => submit_elsewhere ne id transfer secret)
        fun other => Registry.pending?_withWallet registry uid other _
      have waits : receipt.status = .waiting := by
        have waits := (ledger.pending uid pending known).2
        rw [Receipts.status?, there] at waits
        exact Option.some.inj waits
      have notHeld : receipt.isHeld = false := by
        simpa [awaited?, isPending, Receipts.isAwaited, there, Receipt.isAwaited, waits] using free
      simp [Receipt.heed, Input.decision?, Input.submitsFrom, notHeld]

/-- What comes of a submission: it is refused and nothing changes, or the next receipt
is issued for it. -/
theorem submit_cases (ledger : Ledger entries registry outside.receipts) (host : Host W)
    (uid : CurrencyId) (transfer : Transfer) (secret : Bytes) :
    ((∃ error, (registry.submit host uid transfer secret outside).answer = .error error) ∧
        Heeds entries (.command (.submit uid transfer secret)) outside.receipts
          (registry.submit host uid transfer secret outside).registry
          (registry.submit host uid transfer secret outside).outside.receipts) ∨
      (registry.submit host uid transfer secret outside).answer =
          .ok outside.receipts.nextId ∧
        Ledger (entries ++ [(uid, transfer.id)])
          (registry.submit host uid transfer secret outside).registry
          (registry.submit host uid transfer secret outside).outside.receipts ∧
        (registry.submit host uid transfer secret outside).outside.receipts.get?
          outside.receipts.nextId = some .fresh ∧
        ∀ (other : CurrencyId) (id : TransferId) (receipt : ReceiptId),
          entries[receipt.number]? = some (other, id) →
            (registry.submit host uid transfer secret outside).outside.receipts.get? receipt =
              (outside.receipts.get? receipt).map
                (·.heed other id (.command (.submit uid transfer secret))) := by
  cases found : registry.wallets[uid]? with
  | none =>
      rw [Registry.submit, found]
      exact .inl ⟨⟨_, rfl⟩, ledger.heeds_of_missing found
        fun other id ne => submit_elsewhere ne id transfer secret⟩
  | some controller =>
      cases awaited : controller.awaited? outside.receipts with
      | some pending =>
          rw [Registry.submit_of_awaited host found awaited]
          exact .inl ⟨⟨_, rfl⟩, ledger.heeds_awaited found awaited transfer secret⟩
      | none =>
          obtain ⟨aside, submitted, receipts, -⟩ :=
            Registry.submit_of_free host found awaited transfer secret
          rw [submitted]
          have released := ledger.heeds_released found awaited transfer secret
          rw [← receipts] at released
          have sameId : aside.receipts.nextId = outside.receipts.nextId :=
            congrArg ReceiptId.mk (released.ledger.length.trans ledger.length.symm)
          have issued : Ledger (entries ++ [(uid, transfer.id)]) (registry.withWallet uid
              { controller with pending := some ⟨transfer.id, outside.receipts.nextId⟩ })
              aside.receipts.issue := by
            refine released.ledger.issue ?_ fun other => ?_
            · rw [Registry.pending?_withWallet, if_pos rfl]
            · simp only [Registry.pending?_withWallet, sameId]
              split <;> rfl
          refine .inr ⟨rfl, issued, ?_, fun other id receipt entry => ?_⟩
          · rw [← sameId]
            exact aside.receipts.get?_issue_nextId
          · have inside := (List.getElem?_eq_some_iff.1 entry).1
            rw [← released.heeded other id receipt entry]
            exact Receipts.get?_issue_of_lt (released.ledger.length ▸ inside)

theorem heeds_addWallet (ledger : Ledger entries registry outside.receipts) (host : Host W)
    (manager : EngineManager) (wallet : EngineWallet) :
    Heeds entries (.event (.manager manager (.walletAdded wallet))) outside.receipts
      (registry.addWallet host manager wallet outside).registry
      (registry.addWallet host manager wallet outside).outside.receipts := by
  have idle (uid : CurrencyId) (pending : PendingSend) (receipt : Receipt) :
      receipt.heed uid pending.transfer (.event (.manager manager (.walletAdded wallet))) =
        receipt :=
    Receipt.heed_of_none rfl (by simp [Input.submitsFrom])
  have published (outside : Outside W) (action : StateAction) :
      (outside.publish action).receipts = outside.receipts :=
    (steady_receipts host).publish outside action
  rw [Registry.addWallet]
  dsimp only
  split
  · exact ledger.heeds_of_same (fun _ => rfl) fun uid pending receipt _ _ =>
      idle uid pending receipt
  · rename_i absent
    split
    · exact ledger.heeds_of_same (fun _ => rfl)
        fun uid pending receipt _ _ => idle uid pending receipt
    · dsimp only
      rw [published]
      have missing : registry.wallets[wallet.currency.uid]? = none :=
        Std.ExtTreeMap.getElem?_eq_none (by simpa using absent)
      exact ledger.heeds_of_same (Registry.pending?_withWallet_of_same
        (Registry.pending?_of_missing missing).symm)
        fun uid pending receipt _ _ => idle uid pending receipt

/-- All but submissions leave the receipts as they are decided about. -/
theorem handle_heeds (ledger : Ledger entries registry outside.receipts)
    (vacant : registry.lifecycle = .uninitialized → registry.wallets = ∅) (host : Host W)
    (input : Input)
    (other : ∀ uid transfer secret, input ≠ .command (.submit uid transfer secret)) :
    Heeds entries input outside.receipts (registry.handle host input outside).registry
      (registry.handle host input outside).outside.receipts := by
  have steady := steady_receipts host
  have may (told : ManagerCommand) : (fun _ => True) told := trivial
  cases input with
  | notice notice =>
      exact ledger.heeds_of_calm
        ((Registry.calm_handleNotice steady registry outside may notice).map _)
        fun _ _ _ => ⟨rfl, rfl⟩
  | command command =>
      cases command with
      | create account =>
          exact ledger.heeds_of_calm ((Registry.calm_create steady registry outside account).map _)
            fun _ _ _ => ⟨rfl, rfl⟩
      | connect =>
          exact ledger.heeds_of_calm ((Registry.calm_connect steady registry outside trivial).map _)
            fun _ _ _ => ⟨rfl, rfl⟩
      | disconnect =>
          exact ledger.heeds_of_calm
            ((Registry.calm_disconnect steady registry outside trivial).map _)
            fun _ _ _ => ⟨rfl, rfl⟩
      | shutdown => exact ledger.heeds_shutdown vacant host
      | setMode network mode =>
          exact ledger.heeds_of_calm
            ((Registry.calm_setMode steady registry outside may network mode).map _)
            fun _ _ _ => ⟨rfl, rfl⟩
      | rescan network depth =>
          exact ledger.heeds_of_calm
            ((Registry.calm_rescan steady registry outside may network depth).map _)
            fun _ _ _ => ⟨rfl, rfl⟩
      | updateConnections enabled =>
          exact ledger.heeds_of_calm
            ((Registry.calm_updateConnections steady registry outside may enabled).map _)
            fun _ _ _ => ⟨rfl, rfl⟩
      | draft uid address amount fee =>
          exact ledger.heeds_of_calm
            ((Registry.calm_draft steady registry outside uid address amount fee).map _)
            fun _ _ _ => ⟨rfl, rfl⟩
      | submit uid transfer secret => exact absurd rfl (other uid transfer secret)
      | unsubscribe uid transfer => exact ledger.heeds_unsubscribe uid transfer
      | snapshot => exact ledger.heeds_of_calm (α := Reply) ⟨rfl, rfl⟩ fun _ _ _ => ⟨rfl, rfl⟩
  | event event =>
      change Heeds entries _ _ (registry.handleEvent host event outside).registry
        (registry.handleEvent host event outside).outside.receipts
      rw [Registry.handleEvent]
      split
      · rename_i uninitialized
        refine ledger.heeds_of_calm (α := Unit) ⟨rfl, rfl⟩ fun uid id known => absurd ?_ known
        rw [Registry.pending?, vacant uninitialized]
        simp
      · cases event with
        | system event =>
            cases event with
            | created => exact ledger.heeds_of_calm (α := Unit) ⟨rfl, rfl⟩ fun _ _ _ => ⟨rfl, rfl⟩
            | networkAdded network =>
                exact ledger.heeds_of_calm
                  (Registry.calm_addNetwork steady registry outside network)
                  fun _ _ _ => ⟨rfl, rfl⟩
            | managerAdded manager =>
                exact ledger.heeds_of_calm
                  (Registry.calm_addManager steady registry outside trivial manager)
                  fun _ _ _ => ⟨rfl, rfl⟩
        | manager manager event =>
            by_cases isAdded : ∃ wallet, event = .walletAdded wallet
            · obtain ⟨wallet, rfl⟩ := isAdded
              exact ledger.heeds_addWallet host manager wallet
            by_cases isDeleted : ∃ wallet, event = .walletDeleted wallet
            · obtain ⟨wallet, rfl⟩ := isDeleted
              exact ledger.heeds_removeWallet host manager wallet
            have notDeleted := not_exists.1 isDeleted
            refine ledger.heeds_of_calm (Registry.calm_handleManager steady registry outside manager
              (not_exists.1 isAdded) notDeleted) fun _ _ _ => ⟨?_, rfl⟩
            cases event with
            | walletDeleted wallet => exact absurd rfl (notDeleted wallet)
            | _ => rfl
        | wallet manager wallet event => exact ledger.heeds_wallet host manager wallet event
        | transfer manager wallet transfer event =>
            exact ledger.heeds_transfer host manager wallet transfer event

end Ledger

end MultiWallet
