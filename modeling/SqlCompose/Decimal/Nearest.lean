/-!
# Reading decimals
-/

namespace SqlCompose.Decimal

/-- The double nearest to `± n · 10 ^ exponent`. Beyond 400 digits it is an infinity or a zero. -/
def nearest (negative : Bool) (n : Nat) (exponent : Int) : Float :=
  let leading := exponent + (Nat.toDigits 10 n).length
  let size :=
    if n = 0 ∨ leading < -400 then Float.ofScientific 0 false 0
    else if 400 < leading then Float.ofScientific 1 false 400
    else Float.ofScientific n (exponent < 0) exponent.natAbs
  if negative then -size else size

end SqlCompose.Decimal
