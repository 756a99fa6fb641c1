/-!
Why a transfer cannot be drafted.
-/

namespace MultiWallet

inductive DraftError where
  | invalidAddress (address : String)
  | invalidAmountOrFee
deriving DecidableEq

def DraftError.message : DraftError → String
  | invalidAddress address => "Invalid address: " ++ address
  | invalidAmountOrFee => "Invalid amount or fee"

end MultiWallet
