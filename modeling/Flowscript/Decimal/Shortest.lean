import Flowscript.Decimal.Binary

/-!
# The shortest decimal

Of the decimal numbers that round to a stored magnitude, the shortest is the one with the fewest
digits, and of those the one nearest to the value; where two are nearest, a tie rule decides. For
each number of digits only the two neighbours of the value on that decimal grid can be nearest, so
these are tried in turn. The exact value, which always rounds to itself, ends the search.
-/

namespace Flowscript.Format

/-- The decimal order of magnitude of `n / d`: the least `k` with `n / d < 10 ^ k`. -/
def order (n d : Nat) : Int :=
  if d ≤ n then Digits.count (n / d) else 1 - Digits.count ((d - 1) / n)

/-- The decimal number of `digits` digits that rounds to the stored magnitude `m` and is nearest
to its value `n / d`. -/
def withDigits? (f : Format) (tie : Tie) (m n d digits : Nat) : Option Decimal :=
  let exponent := order n d - digits
  let n := Digits.withZeros n (-exponent).toNat
  let d := Digits.withZeros d exponent.toNat
  let below : Decimal := { coefficient := n / d, exponent }
  let above : Decimal := { coefficient := n / d + 1, exponent }
  match decide (f.round below = m), decide (f.round above = m) with
  | true, true => some (if nearestQuotient tie n d = n / d then below else above)
  | true, false => some below
  | false, true => some above
  | false, false => none

/-- The value of a stored magnitude, as it is. -/
def exactly (f : Format) (m : Nat) : Decimal :=
  { coefficient := f.units m * Nat.pow 5 f.scale, exponent := -f.scale }

/-- The shortest decimal number that rounds to a positive finite stored magnitude. -/
def shortest (f : Format) (tie : Tie) (m : Nat) : Decimal :=
  ((List.range f.decimalDigits).findSome? fun k =>
    f.withDigits? tie m (f.units m) (1 <<< f.scale) (k + 1)).getD (f.exactly m)

end Flowscript.Format
