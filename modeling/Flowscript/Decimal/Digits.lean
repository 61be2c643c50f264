/-!
# Digits

Whole numbers are written in decimal without leading zeros, a minus sign before the negative
ones, and read back with leading zeros and an optional plus sign allowed.
-/

namespace Flowscript.Digits

/-- A natural number in decimal digits. -/
def ofNat (n : Nat) : List Char :=
  Nat.toDigits 10 n

/-- An integer in decimal digits. -/
def ofInt (i : Int) : List Char :=
  if i < 0 then '-' :: ofNat i.natAbs else ofNat i.natAbs

/-- The number that a run of digits denotes. -/
def value (cs : List Char) : Nat :=
  Nat.ofDigitChars 10 cs 0

theorem value_ofNat (n : Nat) : value (ofNat n) = n :=
  Nat.ofDigitChars_toDigits (by decide) (by decide)

/-- How many digits a natural number has. -/
def count (n : Nat) : Nat :=
  (ofNat n).length

/-- A natural number with zeros behind its digits. -/
def withZeros (n zeros : Nat) : Nat :=
  n * Nat.pow 10 zeros

/-- Whether text consists of decimal digits, at least one. -/
def isRun (cs : List Char) : Bool :=
  !cs.isEmpty && cs.all Char.isDigit

/-- A minus or plus sign, and the text after it; no sign counts as a plus sign. -/
def signed : List Char → Bool × List Char
  | '-' :: cs => (true, cs)
  | '+' :: cs => (false, cs)
  | cs => (false, cs)

/-- The natural number that an optional plus sign and digits denote. -/
def nat? (cs : List Char) : Option Nat :=
  let digits := match cs with
    | '+' :: rest => rest
    | _ => cs
  if isRun digits then some (value digits) else none

/-- The integer that an optional sign and digits denote. -/
def int? (cs : List Char) : Option Int :=
  let (negative, digits) := signed cs
  if isRun digits then some (if negative then -(value digits : Int) else value digits) else none

/-- The signed 64-bit integer that an optional sign and digits denote. -/
def int64? (cs : List Char) : Option Int64 :=
  (int? cs).bind fun i =>
    if Int64.minValue.toInt ≤ i ∧ i ≤ Int64.maxValue.toInt then some (Int64.ofInt i) else none

end Flowscript.Digits
