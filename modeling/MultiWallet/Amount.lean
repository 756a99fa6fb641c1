import MultiWallet.Currency.Id

/-!
Amounts of a currency, counted in its smallest unit, and their decimal text.
-/

namespace MultiWallet

/-- An amount in base units. -/
structure Amount where
  units : Nat
  currency : CurrencyId
deriving DecidableEq

namespace Amount

def zero (currency : CurrencyId) : Amount := ⟨0, currency⟩

/-- The largest number of 128 bits, the most that base units are counted to. -/
def largest : Nat := UInt64.size * UInt64.size - 1

/-- A number of base units as a decimal with the given number of places. A scale
whose power of ten takes more than 128 bits leaves the base units as they are. -/
def decimalText (units : Nat) (places : UInt8) : String :=
  let scale := Nat.pow 10 places.toNat
  if places = 0 ∨ largest < scale then toString units
  else toString (units / scale) ++ "." ++ Text.padded places.toNat (units % scale)

end Amount

end MultiWallet
