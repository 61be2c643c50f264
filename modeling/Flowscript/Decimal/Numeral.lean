import Flowscript.Decimal.Digits

/-!
# Decimal numerals

A numeral has a sign, digits on either side of a point, and a power of ten. It denotes an exact
decimal number; what a machine number makes of that is decided elsewhere.
-/

namespace Flowscript

/-- The number `coefficient · 10 ^ exponent`. -/
structure Decimal where
  coefficient : Nat
  exponent : Int
  deriving DecidableEq

/-- A sign, the digits before and after the point, and the power of ten. -/
structure Numeral where
  negative : Bool
  whole : List Char
  fraction : List Char
  power : Int

namespace Numeral

/-- The magnitude that a numeral denotes. -/
def magnitude (n : Numeral) : Decimal :=
  { coefficient := Digits.value (n.whole ++ n.fraction)
    exponent := n.power - n.fraction.length }

/-- The power of ten written behind the digits: nothing, or a letter `e` and an integer. -/
def power? : List Char → Option Int
  | [] => some 0
  | c :: cs => if c = 'e' || c = 'E' then Digits.int? cs else none

/-- The digits behind the point, if there is one, and the text after them. -/
def afterPoint : List Char → List Char × List Char
  | '.' :: cs => (cs.takeWhile Char.isDigit, cs.dropWhile Char.isDigit)
  | cs => ([], cs)

/-- Reads a whole text as a numeral. Digits may be missing on one side of the point, not on
both. -/
def read? (cs : List Char) : Option Numeral :=
  let (negative, body) := Digits.signed cs
  let whole := body.takeWhile Char.isDigit
  let (fraction, rest) := afterPoint (body.dropWhile Char.isDigit)
  if whole.isEmpty && fraction.isEmpty then none
  else (power? rest).map fun power => { negative, whole, fraction, power }

end Numeral

end Flowscript
