import MultiWallet.Amount
import MultiWallet.Text.Hex
import MultiWallet.Time.Instant

/-!
Transfers as the engine knows them, and which of them are shown.
-/

namespace MultiWallet

/-- The engine's name for a transfer, which stays the same as it proceeds. -/
structure TransferId where
  text : String
deriving DecidableEq

structure TransferHash where
  bytes : Bytes
deriving DecidableEq

def TransferHash.text (hash : TransferHash) : String := "0x" ++ Hex.encode hash.bytes

structure Address where
  text : String
deriving DecidableEq

inductive TransferState where
  | created
  | signed
  | submitted
  | pending
  | included
  | failed (reason : String)
  | deleted
deriving DecidableEq

/-- Which way a transfer goes, seen from the wallet. -/
inductive TransferDirection where
  | sent
  | received
  | recovered
deriving DecidableEq

structure Transfer where
  id : TransferId
  hash : Option TransferHash
  state : TransferState
  direction : TransferDirection
  amount : Amount
  timestamp : Option Instant
  target : Address
deriving DecidableEq

namespace Transfer

/-- Whether a transfer is shown. Deleted ones are not, nor are outgoing ones that
were never submitted. -/
def isVisible (transfer : Transfer) : Bool :=
  match transfer.state with
  | .deleted => false
  | .created | .signed => transfer.direction != .sent
  | _ => true

/-- The time a transfer is sorted by. One without a time is still pending and
counts as the latest. -/
def sortTime (transfer : Transfer) : Instant := transfer.timestamp.getD .last

def noOlder (left right : Transfer) : Bool :=
  (compare right.sortTime left.sortTime).isLE

/-- The visible ones of some transfers, the newest first. Those of one time stay
in their order. -/
def newestFirst (transfers : List Transfer) : List Transfer :=
  (transfers.filter isVisible).mergeSort noOlder

end Transfer

/-- What a transfer costs, in base units of the network's currency. -/
structure FeeBasis where
  pricePerCostFactor : Nat
  costFactor : Nat
deriving DecidableEq

/-- The fee, at most the largest number of 128 bits. -/
def FeeBasis.fee (basis : FeeBasis) : Nat :=
  min (basis.pricePerCostFactor * basis.costFactor) Amount.largest

end MultiWallet
