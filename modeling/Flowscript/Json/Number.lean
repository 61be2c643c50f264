import Flowscript.Decimal.Binary

/-!
# Doubles in JSON

A JSON numeral is taken for a double near the number that it denotes, which is found with two
roundings. As many leading digits as 64 bits hold make up a significand, and further ones are left
out; the significand is rounded to a double, and that is multiplied or divided by a power of ten.
The outcome may miss the nearest double by a few units in the last place.
-/

namespace Flowscript.Json

/-- A natural number with further digits behind its own, as long as 64 bits hold it, and the digits
that are left over. -/
def appendDigits (n : Nat) : List Char → Nat × List Char
  | [] => (n, [])
  | c :: cs =>
    let longer := 10 * n + (c.toNat - '0'.toNat)
    if longer < UInt64.size then appendDigits longer cs else (n, c :: cs)

/-- The leading digits of a numeral, with the power of ten that moves them into place. -/
def significand (x : Numeral) : Decimal :=
  let (n, wholeLeft) := appendDigits 0 x.whole
  let (n, fractionLeft) := appendDigits n x.fraction
  { coefficient := n
    exponent := x.power + wholeLeft.length + fractionLeft.length - x.fraction.length }

/-- The stored double nearest to a power of ten. -/
def power (k : Nat) : Nat :=
  Format.binary64.rounded (Digits.withZeros 1 k) 1

/-- A stored double divided by a power of ten. One that no double holds is divided by in two steps;
nothing is left of a significand after twice the greatest one. -/
def divide (m k : Nat) : Nat :=
  if k ≤ 308 then Format.binary64.div m (power k)
  else Format.binary64.div (Format.binary64.div m (power 308)) (power (min 308 (k - 308)))

/-- The stored double of a significand; none where it exceeds every finite one. -/
def stored? (x : Decimal) : Option Nat :=
  let m := Format.binary64.rounded x.coefficient 1
  if x.coefficient = 0 then some 0
  else if x.exponent < 0 then some (divide m (-x.exponent).toNat)
  else if 308 < x.exponent then none
  else
    let product := Format.binary64.mul m (power x.exponent.toNat)
    if product < Format.binary64.infinity then some product else none

/-- The double that a numeral literal is taken for; none where it exceeds every finite one. -/
def float? (literal : String) : Option Float := do
  let x ← Numeral.read? literal.toList
  let m ← stored? (significand x)
  some (.ofBits (.ofNat (Format.binary64.signedBits x.negative m)))

end Flowscript.Json
