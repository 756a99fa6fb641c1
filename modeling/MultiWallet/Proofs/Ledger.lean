import MultiWallet.Proofs.Steady

/-!
Receipts and the submissions that are pending. A ledger lists what receipts were
issued for, and the two sides agree: a receipt waits exactly as long as the wallet
that it was issued for keeps it as its pending submission. So an input decides about
a receipt by the wallet and the transfer alone, whatever the other wallets do.
-/

namespace MultiWallet

variable {W : Type}

/-! ### Decisions -/

namespace Input

/-- What an input makes of the submission of a transfer from a wallet, if it is about
that one. -/
def decision? (uid : CurrencyId) (id : TransferId) : Input → Option ReceiptStatus
  | .event (.wallet _ wallet (.transferSubmitted transfer success)) =>
    if wallet.currency.uid = uid ∧ transfer.id = id then some (.settled (.of id success)) else none
  | .event (.transfer _ wallet transfer (.changed _ .submitted)) =>
    if wallet.currency.uid = uid ∧ transfer.id = id then some (.settled (.submitted id)) else none
  | .event (.transfer _ wallet transfer (.changed _ (.failed _))) =>
    if wallet.currency.uid = uid ∧ transfer.id = id then some (.settled (.failed id)) else none
  | .event (.manager _ (.walletDeleted wallet)) =>
    if wallet.currency.uid = uid then some .closed else none
  | .command (.unsubscribe wallet transfer) =>
    if wallet = uid ∧ transfer = id then some .closed else none
  | .command .shutdown => some .closed
  | _ => none

/-- Whether an input asks for a submission from a wallet. -/
def submitsFrom (uid : CurrencyId) : Input → Bool
  | .command (.submit wallet _ _) => wallet == uid
  | _ => false

theorem decision?_ne_waiting (uid : CurrencyId) (id : TransferId) (input : Input) :
    input.decision? uid id ≠ some .waiting := by
  fun_cases decision? uid id input <;> simp

end Input

namespace Receipt

/-- A receipt about which something is decided. One that was let go is closed. -/
def decide (receipt : Receipt) (status : ReceiptStatus) : Receipt :=
  if receipt.status = .waiting then
    { receipt with status := if receipt.isHeld then status else .closed }
  else receipt

/-- A receipt after an input. One that was let go is given up also when there is
another submission. -/
def heed (receipt : Receipt) (uid : CurrencyId) (id : TransferId) (input : Input) : Receipt :=
  match input.decision? uid id with
  | some status => receipt.decide status
  | none => if input.submitsFrom uid && !receipt.isHeld then receipt.close else receipt

variable {receipt : Receipt} {uid : CurrencyId} {id : TransferId} {input : Input}

theorem close_eq_decide (receipt : Receipt) : receipt.close = receipt.decide .closed := by
  simp [close, decide]

theorem close_eq_decide_of_not_held (notHeld : receipt.isHeld = false) (status : ReceiptStatus) :
    receipt.close = receipt.decide status := by
  simp [close, decide, notHeld]

theorem settle_eq_decide (outcome : SendOutcome) (held : receipt.isHeld = true) :
    receipt.settle outcome = receipt.decide (.settled outcome) := by
  simp [settle, decide, held]

theorem decide_of_ne_waiting (done : receipt.status ≠ .waiting) (status : ReceiptStatus) :
    receipt.decide status = receipt :=
  if_neg done

theorem status_decide_ne_waiting {status : ReceiptStatus} (h : status ≠ .waiting) :
    (receipt.decide status).status ≠ .waiting := by
  rw [decide]
  split
  · dsimp only
    split
    · exact h
    · nofun
  · assumption

theorem status_close_ne_waiting (receipt : Receipt) : receipt.close.status ≠ .waiting := by
  rw [close_eq_decide]
  exact status_decide_ne_waiting (by nofun)

theorem close_close (receipt : Receipt) : receipt.close.close = receipt.close :=
  if_neg receipt.status_close_ne_waiting

theorem heed_of_decision {status : ReceiptStatus} (h : input.decision? uid id = some status) :
    receipt.heed uid id input = receipt.decide status := by
  rw [heed, h]

theorem heed_of_none (h : input.decision? uid id = none)
    (kept : input.submitsFrom uid = true → receipt.isHeld = true) :
    receipt.heed uid id input = receipt := by
  rw [heed, h]
  cases submits : input.submitsFrom uid
  · rfl
  · simp [kept submits]

theorem heed_of_ne_waiting (done : receipt.status ≠ .waiting) :
    receipt.heed uid id input = receipt := by
  rw [heed]
  split
  · exact decide_of_ne_waiting done _
  · split
    · rw [close_eq_decide, decide_of_ne_waiting done]
    · rfl

end Receipt

/-! ### Numbers of receipts -/

namespace Receipts

variable {receipts : Receipts} {id other : ReceiptId}

theorem get?_modify_self (receipts : Receipts) (id : ReceiptId) (change : Receipt → Receipt) :
    (receipts.modify id change).get? id = (receipts.get? id).map change := by
  simp [get?, modify]

theorem get?_modify_of_ne (ne : id ≠ other) (change : Receipt → Receipt) :
    (receipts.modify id change).get? other = receipts.get? other := by
  have apart : id.number ≠ other.number := fun same => ne (congrArg ReceiptId.mk same)
  simp [get?, modify, apart]

theorem get?_issue_nextId (receipts : Receipts) :
    receipts.issue.get? receipts.nextId = some .fresh := by
  simp [get?, issue, nextId]

theorem get?_issue_of_lt (h : id.number < receipts.list.length) :
    receipts.issue.get? id = receipts.get? id :=
  List.getElem?_append_left h

/-- One of the receipts is decided about, and the others are left alone. -/
structure Decided (receipts receipts' : Receipts) (id : ReceiptId) (status : ReceiptStatus) :
    Prop where
  length : receipts'.list.length = receipts.list.length
  here : receipts'.get? id = (receipts.get? id).map (·.decide status)
  others : ∀ other, id ≠ other → receipts'.get? other = receipts.get? other

theorem decided_modify {receipt : Receipt} (found : receipts.get? id = some receipt)
    {change : Receipt → Receipt} {status : ReceiptStatus}
    (same : change receipt = receipt.decide status) :
    receipts.Decided (receipts.modify id change) id status where
  length := by simp [modify]
  here := by rw [get?_modify_self, found, Option.map_some, Option.map_some, same]
  others _ ne := get?_modify_of_ne ne change

theorem status?_eq_some_iff {status : ReceiptStatus} :
    receipts.status? id = some status ↔
      ∃ receipt, receipts.get? id = some receipt ∧ receipt.status = status := by
  rw [status?, Option.map_eq_some_iff]

end Receipts

/-! ### Pending submissions -/

/-- The pending submission of a wallet. -/
def Registry.pending? (registry : Registry) (uid : CurrencyId) : Option PendingSend :=
  registry.wallets[uid]?.bind (·.pending)

theorem Registry.pending?_of_missing {registry : Registry} {uid : CurrencyId}
    (missing : registry.wallets[uid]? = none) : registry.pending? uid = none := by
  rw [pending?, missing]
  rfl

theorem Registry.pending?_of_found {registry : Registry} {uid : CurrencyId}
    {controller : WalletController} (found : registry.wallets[uid]? = some controller) :
    registry.pending? uid = controller.pending := by
  rw [pending?, found]
  rfl

theorem Registry.pending?_withWallet (registry : Registry) (uid other : CurrencyId)
    (controller : WalletController) :
    (registry.withWallet uid controller).pending? other =
      if other = uid then controller.pending else registry.pending? other := by
  rw [pending?, withWallet, Std.ExtTreeMap.getElem?_insert]
  by_cases same : uid = other
  · rw [if_pos (by rw [same, Std.LawfulEqOrd.compare_eq_iff_eq]), if_pos same.symm]
    rfl
  · rw [if_neg (fun eq => same (Std.LawfulEqOrd.eq_of_compare eq)), if_neg (Ne.symm same)]
    rfl

theorem Registry.pending?_erase (registry : Registry) (uid other : CurrencyId) :
    Registry.pending? { registry with wallets := registry.wallets.erase uid } other =
      if other = uid then none else registry.pending? other := by
  rw [pending?, Std.ExtTreeMap.getElem?_erase]
  by_cases same : other = uid
  · rw [if_pos (by rw [same, Std.LawfulEqOrd.compare_eq_iff_eq]), if_pos same]
    rfl
  · rw [if_neg (fun eq => same (Std.LawfulEqOrd.eq_of_compare eq).symm), if_neg same]
    rfl

theorem Registry.pending?_withWallet_of_same {registry : Registry} {uid : CurrencyId}
    {controller : WalletController} (same : controller.pending = registry.pending? uid)
    (other : CurrencyId) : (registry.withWallet uid controller).pending? other =
      registry.pending? other := by
  rw [pending?_withWallet]
  split
  · rename_i here
    rw [here, same]
  · rfl

/-- What receipts were issued for, by their numbers. A receipt waits if and only if
its submission is the pending one of its wallet. -/
structure Ledger (entries : List (CurrencyId × TransferId)) (registry : Registry)
    (receipts : Receipts) : Prop where
  length : receipts.list.length = entries.length
  pending : ∀ (uid : CurrencyId) (pending : PendingSend), registry.pending? uid = some pending →
    entries[pending.receipt.number]? = some (uid, pending.transfer) ∧
      receipts.status? pending.receipt = some .waiting
  waiting : ∀ (uid : CurrencyId) (id : TransferId) (receipt : ReceiptId),
    entries[receipt.number]? = some (uid, id) → receipts.status? receipt = some .waiting →
      registry.pending? uid = some ⟨id, receipt⟩

/-- The receipts are as an input leaves them that issues none, and the ledger still
holds. -/
structure Ledger.Heeds (entries : List (CurrencyId × TransferId)) (input : Input)
    (receipts : Receipts) (registry : Registry) (receipts' : Receipts) : Prop where
  ledger : Ledger entries registry receipts'
  heeded : ∀ (uid : CurrencyId) (id : TransferId) (receipt : ReceiptId),
    entries[receipt.number]? = some (uid, id) →
      receipts'.get? receipt = (receipts.get? receipt).map (·.heed uid id input)

namespace Ledger

variable {entries : List (CurrencyId × TransferId)} {before after : Registry}
  {receipts receipts' : Receipts} {input : Input}

theorem fresh (config : Config) : Ledger [] (.fresh config) .none where
  length := rfl
  pending _ _ found := by simp [Registry.pending?, Registry.fresh] at found
  waiting _ _ _ entry := by simp at entry

/-- Different wallets have different pending receipts. -/
theorem eq_of_receipt (ledger : Ledger entries before receipts) {uid other : CurrencyId}
    {pending pending' : PendingSend} (found : before.pending? uid = some pending)
    (found' : before.pending? other = some pending') (same : pending.receipt = pending'.receipt) :
    uid = other ∧ pending = pending' := by
  have entry := (ledger.pending uid pending found).1
  rw [same, (ledger.pending other pending' found').1] at entry
  obtain ⟨rfl, transfer⟩ := Prod.mk.inj (Option.some.inj entry)
  exact ⟨rfl, Option.some.inj (found.symm.trans found')⟩

/-- It is enough to know what an input does to pending receipts, as long as exactly
those submissions stay pending whose receipts still wait. -/
theorem heeds (ledger : Ledger entries before receipts)
    (length : receipts'.list.length = receipts.list.length)
    (touched : ∀ uid pending, before.pending? uid = some pending →
      receipts'.get? pending.receipt =
        (receipts.get? pending.receipt).map (·.heed uid pending.transfer input))
    (others : ∀ receipt, (∀ uid pending, before.pending? uid = some pending →
      pending.receipt ≠ receipt) → receipts'.get? receipt = receipts.get? receipt)
    (stays : ∀ uid, after.pending? uid = (before.pending? uid).filter fun pending =>
      receipts'.status? pending.receipt = some .waiting) :
    Heeds entries input receipts after receipts' := by
  have heeded (uid : CurrencyId) (id : TransferId) (receipt : ReceiptId)
      (entry : entries[receipt.number]? = some (uid, id)) :
      receipts'.get? receipt = (receipts.get? receipt).map (·.heed uid id input) := by
    by_cases waits : receipts.status? receipt = some .waiting
    · exact touched uid ⟨id, receipt⟩ (ledger.waiting uid id receipt entry waits)
    · -- What does not wait is pending nowhere, and heeds nothing.
      rw [others receipt fun other pending found same =>
        waits (same ▸ (ledger.pending other pending found).2)]
      cases found : receipts.get? receipt with
      | none => rfl
      | some old =>
          have done : old.status ≠ .waiting := fun status =>
            waits (Receipts.status?_eq_some_iff.2 ⟨old, found, status⟩)
          rw [Option.map_some, Receipt.heed_of_ne_waiting done]
  refine ⟨⟨length.trans ledger.length, fun uid pending found => ?_,
    fun uid id receipt entry waits => ?_⟩, heeded⟩
  · rw [stays uid, Option.filter_eq_some_iff] at found
    exact ⟨(ledger.pending uid pending found.1).1, of_decide_eq_true found.2⟩
  · obtain ⟨new, there, status⟩ := Receipts.status?_eq_some_iff.1 waits
    rw [heeded uid id receipt entry] at there
    obtain ⟨old, was, rfl⟩ := Option.map_eq_some_iff.1 there
    have waited : old.status = .waiting := Classical.byContradiction fun done =>
      done (Receipt.heed_of_ne_waiting done ▸ status)
    have pending := ledger.waiting uid id receipt entry
      (Receipts.status?_eq_some_iff.2 ⟨old, was, waited⟩)
    rw [stays uid, pending, Option.filter_some, if_pos (decide_eq_true waits)]

/-- An input that leaves pending submissions and receipts alone. -/
theorem heeds_of_same (ledger : Ledger entries before receipts)
    (pending : ∀ uid, after.pending? uid = before.pending? uid)
    (idle : ∀ uid pending receipt, before.pending? uid = some pending →
      receipts.get? pending.receipt = some receipt →
        receipt.heed uid pending.transfer input = receipt) :
    Heeds entries input receipts after receipts := by
  refine ledger.heeds rfl (fun uid pending found => ?_) (fun _ _ => rfl) fun uid => ?_
  · cases there : receipts.get? pending.receipt with
    | none => rfl
    | some receipt => rw [Option.map_some, idle uid pending receipt found there]
  · rw [pending uid]
    cases found : before.pending? uid with
    | none => rfl
    | some pending =>
        rw [Option.filter_some, if_pos (decide_eq_true (ledger.pending uid pending found).2)]

/-- An input that decides about the pending submission of one wallet. -/
theorem heeds_of_one (ledger : Ledger entries before receipts) {uid : CurrencyId}
    {pending : PendingSend} (found : before.pending? uid = some pending) {status : ReceiptStatus}
    (decisive : status ≠ .waiting) (decided : receipts.Decided receipts' pending.receipt status)
    (decides : ∀ receipt, receipts.get? pending.receipt = some receipt →
      receipt.heed uid pending.transfer input = receipt.decide status)
    (elsewhere : ∀ other id, other ≠ uid → input.decision? other id = none ∧
      input.submitsFrom other = false)
    (gone : ∀ other, after.pending? other = if other = uid then none else before.pending? other) :
    Heeds entries input receipts after receipts' := by
  have notWaiting : receipts'.status? pending.receipt ≠ some .waiting := by
    rw [Receipts.status?, decided.here, Option.map_map]
    intro waits
    obtain ⟨old, -, waits⟩ := Option.map_eq_some_iff.1 waits
    exact Receipt.status_decide_ne_waiting decisive waits
  have apart {other : CurrencyId} {pending' : PendingSend} (ne : other ≠ uid)
      (found' : before.pending? other = some pending') :
      pending.receipt ≠ pending'.receipt := fun same =>
    ne (ledger.eq_of_receipt found found' same).1.symm
  refine ledger.heeds decided.length (fun other pending' found' => ?_)
    (fun receipt free => decided.others receipt (free uid pending found)) fun other => ?_
  · by_cases same : other = uid
    · subst same
      obtain rfl := Option.some.inj (found.symm.trans found')
      rw [decided.here]
      cases there : receipts.get? pending.receipt with
      | none => rfl
      | some receipt => rw [Option.map_some, Option.map_some, decides receipt there]
    · obtain ⟨undecided, submitsNot⟩ := elsewhere other pending'.transfer same
      rw [decided.others _ (apart same found')]
      have idle : (fun receipt : Receipt => receipt.heed other pending'.transfer input) = id :=
        funext fun _ => Receipt.heed_of_none undecided (by simp [submitsNot])
      rw [idle, Option.map_id]
      rfl
  · rw [gone other]
    split
    · rename_i same
      subst same
      rw [found, Option.filter_some, if_neg (by simpa using notWaiting)]
    · rename_i ne
      cases found' : before.pending? other with
      | none => rfl
      | some pending' =>
          have waits : receipts'.status? pending'.receipt = some .waiting := by
            rw [Receipts.status?, decided.others _ (apart ne found')]
            exact (ledger.pending other pending' found').2
          rw [Option.filter_some, if_pos (decide_eq_true waits)]

/-- One more receipt is issued, for a wallet where none was pending. -/
theorem issue (ledger : Ledger entries before receipts) {uid : CurrencyId} {id : TransferId}
    (free : before.pending? uid = none)
    (issued : ∀ other, after.pending? other =
      if other = uid then some ⟨id, receipts.nextId⟩ else before.pending? other) :
    Ledger (entries ++ [(uid, id)]) after receipts.issue where
  length := by simp [Receipts.issue, ledger.length]
  pending other pending found := by
    rw [issued other] at found
    split at found
    · rename_i same
      cases found
      subst same
      refine ⟨?_, Receipts.status?_eq_some_iff.2 ⟨_, receipts.get?_issue_nextId, rfl⟩⟩
      simp [Receipts.nextId, ledger.length]
    · obtain ⟨entry, waits⟩ := ledger.pending other pending found
      have inside := (List.getElem?_eq_some_iff.1 entry).1
      refine ⟨(List.getElem?_append_left inside).trans entry, ?_⟩
      rw [Receipts.status?, Receipts.get?_issue_of_lt (ledger.length ▸ inside)]
      exact waits
  waiting other id' receipt entry waits := by
    rw [issued other]
    rcases Nat.lt_or_ge receipt.number entries.length with inside | outside
    · rw [List.getElem?_append_left inside] at entry
      rw [Receipts.status?, Receipts.get?_issue_of_lt (ledger.length ▸ inside)] at waits
      have pending := ledger.waiting other id' receipt entry waits
      rw [if_neg (fun same => by rw [same, free] at pending; cases pending), pending]
    · rw [List.getElem?_append_right outside, List.getElem?_singleton] at entry
      split at entry
      · rename_i first
        cases entry
        have number : receipt = receipts.nextId :=
          congrArg ReceiptId.mk (by rw [ledger.length]; omega)
        rw [if_pos rfl, number]
      · cases entry

end Ledger

end MultiWallet
