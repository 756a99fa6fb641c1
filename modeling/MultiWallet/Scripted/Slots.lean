import MultiWallet.Wallet.Outside

/-!
Named places where receipts are kept until somebody asks for them.
-/

namespace MultiWallet

/-- The receipts that are kept, by the names of their places. -/
structure Slots where
  receipts : Table String ReceiptId

namespace Slots

variable {W : Type}

def empty : Slots := ⟨∅⟩

/-- Lets the receipt in a place go. The answer tells whether there was one. -/
def drop (slots : Slots) (slot : String) (outside : Outside W) : Bool × Slots × Outside W :=
  match slots.receipts[slot]? with
  | none => (false, slots, outside)
  | some receipt => (true, ⟨slots.receipts.erase slot⟩, outside.modifyReceipt receipt .letGo)

/-- Keeps a receipt in a place, and lets the one that was there go. -/
def keep (slots : Slots) (slot : String) (receipt : ReceiptId) (outside : Outside W) :
    Slots × Outside W :=
  let (_, slots, outside) := slots.drop slot outside
  (⟨slots.receipts.insert slot receipt⟩, outside)

/-- What the receipt in a place says. An outcome is taken by that. -/
def poll? (slots : Slots) (slot : String) (outside : Outside W) :
    Option ReceiptStatus × Outside W :=
  match slots.receipts[slot]? with
  | none => (none, outside)
  | some receipt =>
    (outside.receipts.status? receipt, outside.modifyReceipt receipt .taken)

end Slots

end MultiWallet
