import MultiWallet.Engine.EventText
import MultiWallet.Registry.Error
import MultiWallet.Wallet.Outside

/-!
The controller of one wallet. It publishes what the engine reports about the
wallet and its transfers, and keeps the receipt of at most one submission, which
is settled by the first report on that transfer.
-/

namespace MultiWallet

/-- A submission whose outcome is awaited. -/
structure PendingSend where
  transfer : TransferId
  receipt : ReceiptId
deriving DecidableEq

structure WalletController where
  currency : Currency
  wallet : EngineWallet
  manager : EngineManager
  pending : Option PendingSend

namespace WalletController

variable {W : Type}

def fresh (currency : Currency) (wallet : EngineWallet) (manager : EngineManager) :
    WalletController :=
  ⟨currency, wallet, manager, none⟩

def balance (host : Host W) (controller : WalletController) (world : W) : Amount :=
  host.balanceOf controller.wallet world

/-- The visible transfers of the wallet, the newest first. -/
def transfers (host : Host W) (controller : WalletController) (world : W) : List Transfer :=
  Transfer.newestFirst (host.transfersOf controller.wallet world)

def receiveAddress (host : Host W) (controller : WalletController) (world : W) : Address :=
  host.receiveAddress controller.wallet world

def draft (host : Host W) (controller : WalletController) (address : String) (amount : Amount)
    (fee : FeeBasis) (outside : Outside W) : Except DraftError Transfer × Outside W :=
  match host.addressOf? controller.wallet address outside.world with
  | none => (.error (.invalidAddress address), outside)
  | some target =>
    match host.draft controller.wallet target amount fee outside.world with
    | (none, world) => (.error .invalidAmountOrFee, { outside with world })
    | (some transfer, world) => (.ok transfer, { outside with world })

/-- An amount in the unit that the currency is shown in. -/
def amountText (controller : WalletController) (amount : Amount) : String :=
  Amount.decimalText amount.units controller.currency.defaultUnit.decimals

def submit (host : Host W) (controller : WalletController) (transfer : Transfer)
    (secret : Bytes) (outside : Outside W) : Outside W :=
  let outside := outside.log .info <|
    "Submitting " ++ controller.currency.code ++ " transfer " ++ transfer.id.text ++ " of "
      ++ controller.amountText transfer.amount
  outside.command host controller.manager (.submit controller.wallet transfer secret)

/-- The submission that somebody still waits for. -/
def awaited? (controller : WalletController) (receipts : Receipts) : Option PendingSend :=
  controller.pending.filter fun pending => receipts.isAwaited pending.receipt

def closePending (pending : Option PendingSend) (outside : Outside W) : Outside W :=
  match pending with
  | none => outside
  | some pending => outside.modifyReceipt pending.receipt .close

/-- Issues the receipt for a transfer, unless somebody waits for another one. A
receipt that was let go gives way. -/
def subscribe (controller : WalletController) (transfer : TransferId) (outside : Outside W) :
    Except Violation (ReceiptId × WalletController × Outside W) :=
  match controller.awaited? outside.receipts with
  | some awaited => .error (.sendAlreadyPending controller.currency.uid awaited.transfer)
  | none =>
    let outside := match controller.pending with
      | none => outside
      | some abandoned =>
        outside.log .debug ("Replacing abandoned send subscription for " ++ abandoned.transfer.text)
    let outside := closePending controller.pending outside
    let receipt := outside.receipts.nextId
    .ok (receipt, { controller with pending := some ⟨transfer, receipt⟩ },
      { outside with receipts := outside.receipts.issue })

/-- Gives up the submission of a transfer. The answer tells whether there was
one. -/
def unsubscribe (controller : WalletController) (transfer : TransferId) (outside : Outside W) :
    Bool × WalletController × Outside W :=
  if controller.pending.any (·.transfer == transfer) then
    (true, { controller with pending := none }, closePending controller.pending outside)
  else (false, controller, outside)

/-- Settles the submission of a transfer, if it is the one that is pending. -/
def resolve (controller : WalletController) (transfer : TransferId) (success : Bool)
    (outside : Outside W) : WalletController × Outside W :=
  match controller.pending with
  | none => (controller, outside)
  | some pending =>
    if pending.transfer = transfer then
      let outside :=
        if outside.receipts.isAwaited pending.receipt then
          outside.modifyReceipt pending.receipt (.settle (.of transfer success))
        else
          (outside.modifyReceipt pending.receipt .close).log .debug
            ("Send subscriber for " ++ transfer.text ++ " went away")
      ({ controller with pending := none }, outside)
    else (controller, outside)

def publishTransfers (host : Host W) (controller : WalletController) (outside : Outside W) :
    Outside W :=
  outside.publish (.walletChanged controller.currency.uid
    (.transfers (controller.transfers host outside.world)))

def heedWalletEvent (host : Host W) (controller : WalletController) (event : WalletEvent)
    (outside : Outside W) : WalletController × Outside W :=
  match event with
  | .balanceUpdated balance =>
    let outside := outside.log .debug
      (controller.currency.code ++ " balance: " ++ controller.amountText balance)
    (controller, outside.publish (.walletChanged controller.currency.uid (.balance balance)))
  | .transferSubmitted transfer success =>
    let (controller, outside) := controller.resolve transfer.id success outside
    (controller, controller.publishTransfers host outside)
  | .transferAdded _ | .transferChanged _ | .transferDeleted _ =>
    (controller, controller.publishTransfers host outside)
  | .created | .changed | .deleted | .feeBasisUpdated => (controller, outside)

def heedTransferState (controller : WalletController) (transfer : TransferId)
    (old new : TransferState) (outside : Outside W) : WalletController × Outside W :=
  match new with
  | .submitted =>
    let outside :=
      if old = .signed then outside
      else outside.log .debug
        ("Transfer " ++ transfer.text ++ " submitted from state " ++ old.description)
    controller.resolve transfer true outside
  | .failed reason =>
    controller.resolve transfer false
      (outside.log .warn ("Transfer " ++ transfer.text ++ " failed: " ++ reason))
  | _ => (controller, outside)

def heedTransferEvent (host : Host W) (controller : WalletController) (transfer : TransferId)
    (event : TransferEvent) (outside : Outside W) : WalletController × Outside W :=
  let (controller, outside) := match event with
    | .changed old new => controller.heedTransferState transfer old new outside
    | .created | .deleted => (controller, outside)
  (controller, controller.publishTransfers host outside)

end WalletController

end MultiWallet
