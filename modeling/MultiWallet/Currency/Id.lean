import MultiWallet.Table
import MultiWallet.Text.Bytes

/-!
Currency ids. The id of a currency names its network before the first colon; a
network's own currency is told by what follows.
-/

namespace MultiWallet

/-- The id of a currency, unique across networks. -/
structure CurrencyId where
  text : String
deriving DecidableEq

namespace CurrencyId

/-- Ids are ordered as their texts. -/
instance : Ord CurrencyId := ⟨compareOn CurrencyId.text⟩

instance : Std.TransOrd CurrencyId := inferInstanceAs (Std.TransCmp (compareOn CurrencyId.text))

instance : Std.LawfulEqOrd CurrencyId where
  eq_of_compare {a b} h := by
    have same : a.text = b.text := Std.LawfulEqOrd.eq_of_compare h
    cases a
    cases b
    exact congrArg CurrencyId.mk same

def networkId (uid : CurrencyId) : String := Text.before ':' uid.text

/-- Whether the currency is its network's own. -/
def isNative (uid : CurrencyId) : Bool := Text.endsWith uid.text ":__native__"

end CurrencyId

/-- How a currency exists on its network. -/
inductive TokenType where
  | native
  | erc20
  | unknown
deriving DecidableEq

end MultiWallet
