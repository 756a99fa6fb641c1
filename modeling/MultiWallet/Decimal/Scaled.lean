/-!
Decimal numbers read as floating-point ones. A number is given by a significand
of 64 bits and a power of ten. The significand is rounded first and then scaled,
with one more rounding for each scaling, so that the result may miss the nearest
floating-point number by a little.
-/

namespace MultiWallet.Decimal

/-- The largest power of ten that is a floating-point number, by its exponent. -/
def largestPower : Nat := 308

def powerOfTen (exponent : Nat) : Float := Float.ofScientific 1 false exponent

/-- A significand times a power of ten, unless that is too large for a
floating-point number. A number too small for one is zero. -/
def scaled? (significand : UInt64) (exponent : Int) : Option Float :=
  let x := significand.toFloat
  if significand = 0 then some x
  else if 0 ≤ exponent then
    if largestPower < exponent then none
    else
      let y := x * powerOfTen exponent.toNat
      if y.isFinite then some y else none
  else
    let places := (-exponent).toNat
    if places ≤ largestPower then some (x / powerOfTen places)
    else if places ≤ 2 * largestPower then
      some (x / powerOfTen largestPower / powerOfTen (places - largestPower))
    else some 0

end MultiWallet.Decimal
