import MultiWallet.Decimal.Binary
import MultiWallet.Text.Bytes

/-!
Binary floating-point numbers written with one decimal place. The number is
taken exactly, as a mantissa times a power of two, and rounded to the nearest
tenth; a tie goes to the even digit.
-/

namespace MultiWallet.Decimal

/-- A quotient rounded to the nearest natural number, ties to the even one. -/
def roundQuotient (numerator denominator : Nat) : Nat :=
  let quotient := numerator / denominator
  let twice := 2 * (numerator % denominator)
  if twice < denominator then quotient
  else if denominator < twice then quotient + 1
  else quotient + quotient % 2

def tenths (number : Binary) : Nat :=
  if 1075 ≤ number.exponent then (10 * number.mantissa) <<< (number.exponent - 1075)
  else roundQuotient (10 * number.mantissa) (1 <<< (1075 - number.exponent))

def tenthsText (count : Nat) : String := toString (count / 10) ++ "." ++ toString (count % 10)

def oneDecimal (x : Float) : String :=
  let number := Binary.ofFloat x
  if number.isFinite then number.sign ++ tenthsText (tenths number)
  else if number.mantissa = Binary.leastMantissa then number.sign ++ "inf"
  else "NaN"

end MultiWallet.Decimal
