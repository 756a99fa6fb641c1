import MultiWallet.Currency.Id
import MultiWallet.Table

/-!
Networks as the engine describes them. Two networks are the same if their ids
are.
-/

namespace MultiWallet

structure CurrencyUnit where
  name : String
  symbol : String
  /-- Decimal places relative to the base unit. -/
  decimals : UInt8
deriving DecidableEq

structure UnitSet where
  base : CurrencyUnit
  default : CurrencyUnit
  all : List CurrencyUnit
deriving DecidableEq

structure EngineCurrency where
  uid : CurrencyId
  code : String
  name : String
  tokenType : TokenType
deriving DecidableEq

structure Network where
  id : String
  name : String
  isMainnet : Bool
  /-- The network's own currency. -/
  currency : CurrencyId
  currencies : List EngineCurrency
  units : Table CurrencyId UnitSet

namespace Network

/-- Networks are told apart by their ids. -/
instance : BEq Network := ⟨fun a b => a.id == b.id⟩

def lists (network : Network) (uid : CurrencyId) : Bool := network.currencies.any (·.uid == uid)

end Network

end MultiWallet
