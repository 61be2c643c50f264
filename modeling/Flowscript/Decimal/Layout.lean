import Flowscript.Decimal.Shortest

/-!
# Layouts of decimal numbers

A layout says which numbers are written with their digits in place and which with a power of ten,
and how the power is written. The digits themselves are the shortest ones in every layout but for
ties, and a whole number below `10 ^ 16` keeps a zero behind its point where digits stand in place.
-/

namespace Flowscript

/-- How a floating point number is laid out. -/
structure Layout where
  /-- The least and the greatest power of ten whose numbers have their digits in place; none where
  all numbers have. -/
  inPlace : Option (Int × Int)
  /-- Whether a power of ten that is not negative is written with its sign. -/
  plusSign : Bool
  /-- Which of two nearest decimal numbers is written. -/
  tie : Tie
  /-- The texts of infinity and of what is not a number. -/
  infinity : String
  notANumber : String

namespace Layout

/-- The digits of a decimal number without trailing zeros. -/
def significant (x : Decimal) : List Char :=
  ((Digits.ofNat x.coefficient).reverse.dropWhile (· = '0')).reverse

/-- Digits before and after a point that stands behind the first `point` of them. -/
def place (digits : List Char) (point : Int) : List Char × List Char :=
  if 0 < point then
    (digits.take point.toNat ++ List.replicate (point.toNat - digits.length) '0',
      digits.drop point.toNat)
  else (['0'], List.replicate (-point).toNat '0' ++ digits)

/-- Digits in place. -/
def inPlaceText (digits : List Char) (point : Int) : List Char :=
  match place digits point with
  | (whole, []) => if point ≤ 16 then whole ++ ['.', '0'] else whole
  | (whole, fraction) => whole ++ '.' :: fraction

/-- One digit, the others behind a point, and the power of ten. -/
def powerText (layout : Layout) (digits : List Char) (power : Int) : List Char :=
  let mantissa := match digits with
    | first :: second :: more => first :: '.' :: second :: more
    | few => few
  let sign := if layout.plusSign && 0 ≤ power then ['+'] else []
  mantissa ++ 'e' :: sign ++ Digits.ofInt power

/-- A positive decimal number. -/
def decimal (layout : Layout) (x : Decimal) : List Char :=
  let digits := significant x
  let point := (Digits.count x.coefficient : Int) + x.exponent
  let inPlace := match layout.inPlace with
    | none => true
    | some (least, greatest) => least ≤ point - 1 && point - 1 ≤ greatest
  if inPlace then inPlaceText digits point else layout.powerText digits (point - 1)

/-- A stored magnitude, with the sign of a number. -/
def magnitude (layout : Layout) (f : Format) (negative : Bool) (m : Nat) : List Char :=
  if f.infinity < m then layout.notANumber.toList
  else
    let text :=
      if m = f.infinity then layout.infinity.toList
      else if m = 0 then ['0', '.', '0']
      else layout.decimal (f.shortest layout.tie m)
    if negative then '-' :: text else text

/-- A double. -/
def double (layout : Layout) (x : Float) : List Char :=
  let bits := x.toBits.toNat
  let sign := Format.binary64.signBit
  layout.magnitude .binary64 (sign ≤ bits) (bits % sign)

/-- A single. -/
def single (layout : Layout) (x : Float32) : List Char :=
  let bits := x.toBits.toNat
  let sign := Format.binary32.signBit
  layout.magnitude .binary32 (sign ≤ bits) (bits % sign)

end Layout

end Flowscript
