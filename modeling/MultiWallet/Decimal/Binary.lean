/-!
Floating-point numbers taken apart into whole numbers.
-/

namespace MultiWallet.Decimal

/-- The number `mantissa * 2 ^ (exponent - 1075)` with a sign. The largest exponent
stands for what is infinite, with the least mantissa, or no number. -/
structure Binary where
  isNegative : Bool
  mantissa : Nat
  exponent : Nat

namespace Binary

/-- The exponent of what is not finite. -/
def largestExponent : Nat := 2047

/-- The least mantissa of a number that is not close to zero. -/
def leastMantissa : Nat := 1 <<< 52

def ofFloat (x : Float) : Binary :=
  let bits := x.toBits.toNat
  let fraction := bits % leastMantissa
  let exponent := (bits >>> 52) % 2048
  ⟨bits >>> 63 = 1, if exponent = 0 then fraction else leastMantissa + fraction, max 1 exponent⟩

def sign (number : Binary) : String := if number.isNegative then "-" else ""

def isFinite (number : Binary) : Bool := number.exponent < largestExponent

end Binary

end MultiWallet.Decimal
