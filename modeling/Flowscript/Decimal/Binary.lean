import Flowscript.Decimal.Numeral

/-!
# Binary floating point formats

A binary interchange format stores a magnitude as a natural number: an exponent field above a
fraction field. Read as numbers, the stored magnitudes stand in the order of the values they
denote, all of which are multiples of the smallest positive one. Rounding an exact number therefore
means finding the spacing that applies to it and dividing by that.
-/

namespace Flowscript

/-- Where a number goes that lies halfway between two others: to the even one, or up. -/
inductive Tie where
  | toEven
  | up
  deriving DecidableEq, Repr

/-- A binary interchange format: the widths of its fraction and exponent fields, and the number
of decimal digits that tell any two of its values apart. -/
structure Format where
  fractionBits : Nat
  exponentBits : Nat
  decimalDigits : Nat

namespace Format

/-- Double precision. -/
def binary64 : Format := { fractionBits := 52, exponentBits := 11, decimalDigits := 17 }

/-- Single precision. -/
def binary32 : Format := { fractionBits := 23, exponentBits := 8, decimalDigits := 9 }

/-- The smallest positive value is `1 / 2 ^ scale`. -/
def scale (f : Format) : Nat := (1 <<< (f.exponentBits - 1)) + f.fractionBits - 2

/-- How many stored magnitudes share an exponent field. -/
def span (f : Format) : Nat := 1 <<< f.fractionBits

/-- The stored magnitude of infinity; what lies above it is not a number. -/
def infinity (f : Format) : Nat := ((1 <<< f.exponentBits) - 1) * f.span

/-- The stored sign bit. -/
def signBit (f : Format) : Nat := f.span <<< f.exponentBits

/-- How often the spacing of the values doubles before it applies to a stored magnitude. -/
def doublings (f : Format) (m : Nat) : Nat := m / f.span - 1

/-- The value of a finite stored magnitude, in units of the smallest positive value. -/
def units (f : Format) (m : Nat) : Nat :=
  if m < f.span then m
  else (f.span + m % f.span) <<< f.doublings m

/-- The natural number nearest to a quotient. -/
def nearestQuotient (tie : Tie) (n d : Nat) : Nat :=
  let q := n / d
  let r := n % d
  if d < 2 * r ∨ (d = 2 * r ∧ (tie = .up ∨ q % 2 = 1)) then q + 1 else q

/-- The stored magnitude nearest to `n / d`, as if there were no largest one. -/
def nearest (f : Format) (n d : Nat) : Nat :=
  let n := n <<< f.scale
  let t := Nat.log2 (n / d) - f.fractionBits
  t * f.span + nearestQuotient .toEven n (d <<< t)

/-- The stored magnitude nearest to `n / d`; infinity lies behind the largest one. -/
def rounded (f : Format) (n d : Nat) : Nat :=
  min f.infinity (f.nearest n d)

/-- The stored magnitude nearest to the product of two. -/
def mul (f : Format) (a b : Nat) : Nat :=
  f.rounded (f.units a * f.units b) (1 <<< (2 * f.scale))

/-- The stored magnitude nearest to the quotient of two. -/
def div (f : Format) (a b : Nat) : Nat :=
  f.rounded (f.units a) (f.units b)

/-- The stored magnitude nearest to a decimal number. Numbers of more than four hundred digits
before the point overflow every format here, and those with as many zeros behind it vanish. -/
def round (f : Format) (x : Decimal) : Nat :=
  let order := (Digits.count x.coefficient : Int) + x.exponent
  if x.coefficient = 0 then 0
  else if 400 < order then f.infinity
  else if order < -400 then 0
  else
    f.rounded (Digits.withZeros x.coefficient x.exponent.toNat)
      (Digits.withZeros 1 (-x.exponent).toNat)

/-- The stored number with a sign and a magnitude. -/
def signedBits (f : Format) (negative : Bool) (m : Nat) : Nat :=
  if negative then f.signBit + m else m

end Format

/-- The double nearest to a numeral. -/
def Numeral.toFloat (n : Numeral) : Float :=
  .ofBits (.ofNat (Format.binary64.signedBits n.negative (Format.binary64.round n.magnitude)))

/-- The single nearest to a numeral. -/
def Numeral.toFloat32 (n : Numeral) : Float32 :=
  .ofBits (.ofNat (Format.binary32.signedBits n.negative (Format.binary32.round n.magnitude)))

/-- The double nearest to the number that a whole text denotes. -/
def Numeral.readFloat? (cs : List Char) : Option Float :=
  (Numeral.read? cs).map Numeral.toFloat

/-- A single written as a number or, in any case of letters, as `inf`, `infinity` or `nan`. -/
def Numeral.readFloat32? (cs : List Char) : Option Float32 :=
  let (negative, body) := Digits.signed cs
  let word := body.map Char.toLower
  if word = "inf".toList ∨ word = "infinity".toList then
    some (.ofBits (.ofNat (Format.binary32.signedBits negative Format.binary32.infinity)))
  else if word = "nan".toList then
    some (.ofBits (.ofNat (Format.binary32.signedBits negative (Format.binary32.infinity + 1))))
  else (Numeral.read? cs).map Numeral.toFloat32

end Flowscript
