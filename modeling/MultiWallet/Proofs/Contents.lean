import MultiWallet.Proofs.Journal

/-!
What operations leave of the contents of a registry. The contents are the
registered currencies, managers and wallets; of a wallet, the submission that is
pending does not count among them, because requests and events about transfers
change nothing else.
-/

namespace MultiWallet

/-- What a table lists it has an entry for. -/
theorem Table.mem_iff_exists {κ α : Type} [Ord κ] [Std.TransOrd κ] {table : Table κ α} {k : κ} :
    k ∈ table ↔ ∃ value, table[k]? = some value := by
  rw [← Std.ExtTreeMap.isSome_getElem?_iff_mem, Option.isSome_iff_exists]

namespace WalletController

open Outside

variable {W : Type}

/-- The controller apart from the submission that it awaits. -/
def bare (controller : WalletController) : WalletController := { controller with pending := none }

theorem currency_eq_of_bare {controller other : WalletController}
    (h : controller.bare = other.bare) : controller.currency = other.currency := by
  have same := congrArg WalletController.currency h
  exact same

theorem manager_eq_of_bare {controller other : WalletController}
    (h : controller.bare = other.bare) : controller.manager = other.manager := by
  have same := congrArg WalletController.manager h
  exact same

theorem wallet_eq_of_bare {controller other : WalletController}
    (h : controller.bare = other.bare) : controller.wallet = other.wallet := by
  have same := congrArg WalletController.wallet h
  exact same

theorem onlyNews_closePending (pending : Option PendingSend) (outside : Outside W) :
    OnlyNews outside (closePending pending outside) := by
  cases pending with
  | none => exact .refl outside
  | some pending => exact (outside.adds_modifyReceipt pending.receipt .close).only (by simp)

theorem onlyNews_log (outside : Outside W) (level : LogLevel) (message : String) :
    OnlyNews outside (outside.log level message) :=
  (outside.adds_log level message).only (by simp [Effect.IsNews])

theorem quietly_submit (host : Host W) (controller : WalletController) (transfer : Transfer)
    (secret : Bytes) (outside : Outside W) :
    Quietly outside (controller.submit host transfer secret outside) :=
  (onlyNews_log outside _ _).quietly.trans <|
    (adds_command host _ controller.manager _).quietly (by simp [Effect.IsQuiet])

theorem onlyNews_subscribe {controller : WalletController} {transfer : TransferId}
    {outside : Outside W} {receipt : ReceiptId} {controller' : WalletController}
    {outside' : Outside W}
    (h : controller.subscribe transfer outside = .ok (receipt, controller', outside')) :
    controller'.bare = controller.bare ∧ OnlyNews outside outside' := by
  rw [subscribe] at h
  split at h
  · cases h
  · cases h
    refine ⟨rfl, .trans (.trans ?_ (onlyNews_closePending _ _)) ((Adds.aside _ _ _).only (by simp))⟩
    split
    · exact .refl outside
    · exact onlyNews_log outside _ _

theorem onlyNews_unsubscribe (controller : WalletController) (transfer : TransferId)
    (outside : Outside W) :
    (controller.unsubscribe transfer outside).2.1.bare = controller.bare ∧
      OnlyNews outside (controller.unsubscribe transfer outside).2.2 := by
  rw [unsubscribe]
  split
  · exact ⟨rfl, onlyNews_closePending _ outside⟩
  · exact ⟨rfl, .refl outside⟩

theorem onlyNews_resolve (controller : WalletController) (transfer : TransferId) (success : Bool)
    (outside : Outside W) :
    (controller.resolve transfer success outside).1.bare = controller.bare ∧
      OnlyNews outside (controller.resolve transfer success outside).2 := by
  rw [resolve]
  split
  · exact ⟨rfl, .refl outside⟩
  · rename_i pending _
    split
    · refine ⟨rfl, ?_⟩
      dsimp only
      split
      · exact (outside.adds_modifyReceipt pending.receipt _).only (by simp)
      · exact ((outside.adds_modifyReceipt pending.receipt _).only (by simp)).trans
          (onlyNews_log _ _ _)
    · exact ⟨rfl, .refl outside⟩

/-- An action about a wallet that is there, heard or not. -/
theorem onlyNews_publish (outside : Outside W) (uid : CurrencyId) (change : WalletChange) :
    OnlyNews outside (outside.publish (.walletChanged uid change)) := by
  rw [publish]
  split
  · exact (outside.adds_note _).only (by simp [Effect.IsNews])
  · exact onlyNews_log outside _ _

theorem onlyNews_heedWalletEvent (host : Host W) (controller : WalletController)
    (event : WalletEvent) (outside : Outside W) :
    (controller.heedWalletEvent host event outside).1.bare = controller.bare ∧
      OnlyNews outside (controller.heedWalletEvent host event outside).2 := by
  cases event with
  | balanceUpdated balance =>
      exact ⟨rfl, (onlyNews_log outside _ _).trans (onlyNews_publish _ _ _)⟩
  | transferSubmitted transfer success =>
      obtain ⟨same, quiet⟩ := onlyNews_resolve controller transfer.id success outside
      exact ⟨same, quiet.trans (onlyNews_publish _ _ _)⟩
  | transferAdded | transferChanged | transferDeleted => exact ⟨rfl, onlyNews_publish _ _ _⟩
  | created | changed | deleted | feeBasisUpdated => exact ⟨rfl, .refl outside⟩

theorem onlyNews_heedTransferState (controller : WalletController) (transfer : TransferId)
    (old new : TransferState) (outside : Outside W) :
    (controller.heedTransferState transfer old new outside).1.bare = controller.bare ∧
      OnlyNews outside (controller.heedTransferState transfer old new outside).2 := by
  cases new with
  | submitted =>
      obtain ⟨same, quiet⟩ := onlyNews_resolve controller transfer true
        (if old = .signed then outside
          else outside.log .debug
            ("Transfer " ++ transfer.text ++ " submitted from state " ++ old.description))
      refine ⟨same, .trans ?_ quiet⟩
      split
      · exact .refl outside
      · exact onlyNews_log outside _ _
  | failed reason =>
      obtain ⟨same, quiet⟩ := onlyNews_resolve controller transfer false
        (outside.log .warn ("Transfer " ++ transfer.text ++ " failed: " ++ reason))
      exact ⟨same, (onlyNews_log outside _ _).trans quiet⟩
  | created | signed | pending | included | deleted => exact ⟨rfl, .refl outside⟩

theorem onlyNews_heedTransferEvent (host : Host W) (controller : WalletController)
    (transfer : TransferId) (event : TransferEvent) (outside : Outside W) :
    (controller.heedTransferEvent host transfer event outside).1.bare = controller.bare ∧
      OnlyNews outside (controller.heedTransferEvent host transfer event outside).2 := by
  cases event with
  | changed old new =>
      obtain ⟨same, quiet⟩ := onlyNews_heedTransferState controller transfer old new outside
      exact ⟨same, quiet.trans (onlyNews_publish _ _ _)⟩
  | created | deleted => exact ⟨rfl, onlyNews_publish _ _ _⟩

end WalletController

end MultiWallet
