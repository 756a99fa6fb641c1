import MultiWallet.Decimal.Binary
import MultiWallet.Text.Bytes

/-!
Floating-point numbers written out in full. Every finite one is a whole number
times a power of two, and so has a decimal text that ends.
-/

namespace MultiWallet.Decimal

/-- A number without its sign in decimal, with at least one place. -/
def expansion (number : Binary) : String :=
  if 1075 ≤ number.exponent then
    toString (number.mantissa <<< (number.exponent - 1075)) ++ ".0"
  else
    let places := 1075 - number.exponent
    let rest := number.mantissa % (1 <<< places) * Nat.pow 5 places
    let digits := Text.dropTrailing '0' (Text.padded places rest)
    toString (number.mantissa >>> places) ++ "." ++ (if digits.isEmpty then "0" else digits)

/-- A floating-point number in decimal, exactly. What is not finite is written as
zero. -/
def exact (x : Float) : String :=
  let number := Binary.ofFloat x
  if number.isFinite then number.sign ++ expansion number else "0.0"

end MultiWallet.Decimal
