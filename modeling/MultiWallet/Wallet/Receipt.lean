import MultiWallet.Engine.Transfer

/-!
Receipts for submitted transfers. A receipt waits until it is settled with what
became of the transfer, or closed without that. Its holder may let it go, and
takes the outcome from it once.
-/

namespace MultiWallet

inductive SendOutcome where
  | submitted (id : TransferId)
  | failed (id : TransferId)
deriving DecidableEq

def SendOutcome.of (id : TransferId) (success : Bool) : SendOutcome :=
  if success then .submitted id else .failed id

inductive ReceiptStatus where
  | waiting
  | settled (outcome : SendOutcome)
  | closed
deriving DecidableEq

structure Receipt where
  isHeld : Bool
  status : ReceiptStatus
deriving DecidableEq

namespace Receipt

def fresh : Receipt := ⟨true, .waiting⟩

/-- Whether somebody waits for the receipt to be settled. -/
def isAwaited (receipt : Receipt) : Bool := receipt.isHeld && receipt.status == .waiting

/-- A receipt with its outcome, if it still waits. -/
def settle (outcome : SendOutcome) (receipt : Receipt) : Receipt :=
  if receipt.status = .waiting then { receipt with status := .settled outcome } else receipt

/-- A receipt that will not be settled any more. -/
def close (receipt : Receipt) : Receipt :=
  if receipt.status = .waiting then { receipt with status := .closed } else receipt

/-- A receipt whose holder let it go. -/
def letGo (receipt : Receipt) : Receipt := { receipt with isHeld := false }

def taken (receipt : Receipt) : Receipt :=
  if receipt.status = .waiting then receipt else { receipt with status := .closed }

end Receipt

structure ReceiptId where
  number : Nat
deriving DecidableEq

/-- All receipts handed out so far, by their numbers. -/
structure Receipts where
  list : List Receipt
deriving DecidableEq

namespace Receipts

def none : Receipts := ⟨[]⟩

def nextId (receipts : Receipts) : ReceiptId := ⟨receipts.list.length⟩

/-- The receipts with one more, whose number is `nextId`. -/
def issue (receipts : Receipts) : Receipts := ⟨receipts.list ++ [.fresh]⟩

def get? (receipts : Receipts) (id : ReceiptId) : Option Receipt := receipts.list[id.number]?

def modify (receipts : Receipts) (id : ReceiptId) (change : Receipt → Receipt) : Receipts :=
  ⟨receipts.list.modify id.number change⟩

def isAwaited (receipts : Receipts) (id : ReceiptId) : Bool :=
  (receipts.get? id).any (·.isAwaited)

def status? (receipts : Receipts) (id : ReceiptId) : Option ReceiptStatus :=
  (receipts.get? id).map (·.status)

end Receipts

end MultiWallet
