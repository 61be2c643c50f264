import Flowscript.Json.Number
import Flowscript.Proofs.Decimal.Rounding

/-!
# The doubles that numerals are taken for

What a numeral of JSON is taken for is a finite double. A significand fits 64 bits, dividing it
leaves it far below the greatest double, and a product that exceeds every double is refused. The
main statement is `isFinite_of_float?`.
-/

namespace Flowscript

section

open Float.Model.UnpackedFloat

/-- The exponent field of a packed number that is in the range of doubles is not the greatest. -/
theorem unpackExponent_pack_finite_ne {s : Sign} {m : Nat} {e : Int} (hm : 0 < m)
    (he : (e + 1075).toNat < 2047) :
    unpackExponent (pack Float.Model.Format.binary64 (.finite s m e hm)) ≠ -1#_ := by
  have hbiased : (e + Float.Model.Format.binary64.exponentBias +
      Float.Model.Format.binary64.mantissaBitsWithoutImplicit).toNat = (e + 1075).toNat := by
    rw [Int.add_assoc]
    rfl
  have hrange : ¬ 2 ^ Float.Model.Format.binary64.exponentBits ≤ (e + 1075).toNat + 1 := by
    change ¬ 2048 ≤ (e + 1075).toNat + 1
    omega
  intro hexponent
  delta pack at hexponent
  dsimp only at hexponent
  rw [hbiased, if_neg hrange] at hexponent
  split at hexponent
  · rw [unpackExponent_packComponents] at hexponent
    have hnat : (e + 1075).toNat % 2048 = 2047 := congrArg BitVec.toNat hexponent
    omega
  · rw [unpackExponent_packComponents] at hexponent
    cases hexponent

theorem isFinite_unpack {b : BitVec Float.Model.Format.binary64.numBits}
    (h : unpackExponent b ≠ -1#_) : (unpack Float.Model.Format.binary64 b).isFinite = true := by
  delta unpack
  dsimp only
  rw [if_neg h]
  by_cases hzero : unpackExponent b = 0#_
  · rw [if_pos hzero]
    by_cases hmantissa : unpackMantissa b = 0#_
    · rw [dif_pos hmantissa]
      rfl
    · rw [dif_neg hmantissa]
      rfl
  · rw [if_neg hzero]
    rfl

theorem unpackExponent_pack_unpack_ne {b : BitVec Float.Model.Format.binary64.numBits}
    (h : unpackExponent b ≠ -1#_) :
    unpackExponent (pack Float.Model.Format.binary64 (unpack Float.Model.Format.binary64 b)) ≠
      -1#_ := by
  have hexponent : (unpackExponent b).toNat ≠ 2047 := fun hnat =>
    h (BitVec.eq_of_toNat_eq hnat)
  have hlt : (unpackExponent b).toNat < 2048 := (unpackExponent b).isLt
  delta unpack
  dsimp only
  rw [if_neg h]
  by_cases hzero : unpackExponent b = 0#_
  · rw [if_pos hzero]
    by_cases hmantissa : unpackMantissa b = 0#_
    · rw [dif_pos hmantissa]
      change unpackExponent (packComponents Float.Model.Format.binary64 _ 0 0) ≠ -1#_
      rw [unpackExponent_packComponents]
      decide
    · rw [dif_neg hmantissa]
      refine unpackExponent_pack_finite_ne _ ?_
      rw [hzero]
      decide
  · rw [if_neg hzero]
    refine unpackExponent_pack_finite_ne _ ?_
    have hbias : (Float.Model.Format.binary64.exponentBias : Int) +
        Float.Model.Format.binary64.mantissaBitsWithoutImplicit = 1075 := rfl
    rw [hbias]
    omega

/-- Bits whose exponent field is not the greatest one make a finite double. -/
theorem isFinite_ofBits {bits : UInt64}
    (h : @unpackExponent Float.Model.Format.binary64 bits.toBitVec ≠ -1#_) :
    (Float.ofBits bits).isFinite = true :=
  isFinite_unpack (unpackExponent_pack_unpack_ne h)

end

namespace Json

variable {n m k : Nat}

/-- A significand fits 64 bits. -/
theorem appendDigits_lt (h : n < UInt64.size) (cs : List Char) :
    (appendDigits n cs).1 < UInt64.size := by
  induction cs generalizing n with
  | nil => exact h
  | cons c cs ih =>
    rw [appendDigits]
    split
    · next hlonger => exact ih hlonger
    · exact h

theorem coefficient_significand_lt (x : Numeral) :
    (significand x).coefficient < UInt64.size :=
  appendDigits_lt (appendDigits_lt (by decide) x.whole) x.fraction

theorem rounded_lt (h : n < UInt64.size) :
    Format.binary64.rounded n 1 < 1089 * Format.binary64.span := by
  have hn : n < 1 * 2 ^ 64 := by
    rw [Nat.one_mul]
    exact h
  calc Format.binary64.rounded n 1 ≤ Format.binary64.nearest n 1 := Nat.min_le_right _ _
    _ ≤ 1088 * Format.binary64.span := Format.nearest_le hn
    _ < 1089 * Format.binary64.span := by decide

theorem scale_le_units_power (k : Nat) :
    2 ^ Format.binary64.scale ≤ Format.binary64.units (power k) := by
  have hone : 1 ≤ Digits.withZeros 1 k := by
    rw [Digits.withZeros, Nat.one_mul]
    exact Nat.pow_pos (by decide)
  exact Format.scale_le_units_rounded (by decide) hone (by decide) (by decide)

theorem divide_lt (h : m < 1089 * Format.binary64.span) (k : Nat) :
    divide m k < Format.binary64.infinity := by
  have hscale : Format.binary64.scale ≤ Format.binary64.fractionBits + 1089 := by decide
  have hscale' : Format.binary64.scale ≤ Format.binary64.fractionBits + 1092 := by decide
  unfold divide
  split
  · calc Format.binary64.div m (power k)
        < 1092 * Format.binary64.span := Format.div_lt h (scale_le_units_power k) hscale
      _ < Format.binary64.infinity := by decide
  · have hfirst := Format.div_lt h (scale_le_units_power 308) hscale
    have hpower := scale_le_units_power (min 308 (k - 308))
    calc Format.binary64.div (Format.binary64.div m (power 308)) (power (min 308 (k - 308)))
        < 1095 * Format.binary64.span := Format.div_lt hfirst hpower hscale'
      _ < Format.binary64.infinity := by decide

theorem infinity_pos : 0 < Format.binary64.infinity := by
  decide +kernel

theorem stored?_lt {x : Decimal} (hx : x.coefficient < UInt64.size) (h : stored? x = some m) :
    m < Format.binary64.infinity := by
  unfold stored? at h
  dsimp only at h
  split_ifs at h with hzero hnegative hlarge hproduct
  · cases h
    exact infinity_pos
  · cases h
    exact divide_lt (rounded_lt hx) _
  · exact Option.some.inj h ▸ hproduct

theorem isFinite_signedBits (negative : Bool) (h : m < Format.binary64.infinity) :
    (Float.ofBits (.ofNat (Format.binary64.signedBits negative m))).isFinite = true := by
  have hsign : Format.binary64.signBit = 2 ^ 63 := by decide
  have hinfinity : Format.binary64.infinity = 2047 * 2 ^ 52 := by decide
  have hbits : Format.binary64.signedBits negative m / 2 ^ 52 % 2 ^ 11 < 2047 := by
    rw [Format.signedBits, hsign]
    rw [hinfinity] at h
    split <;> omega
  refine isFinite_ofBits fun hexponent => ?_
  have hnat := congrArg BitVec.toNat hexponent
  simp only [Float.Model.UnpackedFloat.unpackExponent, BitVec.extractLsb, BitVec.extractLsb',
    BitVec.cast_eq, BitVec.toNat_ofNat, UInt64.toNat_toBitVec, Nat.shiftRight_eq_div_pow,
    BitVec.reduceNeg, UInt64.toNat_ofNat'] at hnat
  omega

/-- What a numeral is taken for is a finite double. -/
theorem isFinite_of_float? {literal : String} {x : Float} (h : float? literal = some x) :
    x.isFinite = true := by
  simp only [float?, Option.bind_eq_bind, Option.bind_eq_some_iff] at h
  obtain ⟨numeral, -, m, hm, hx⟩ := h
  have hlt := stored?_lt (coefficient_significand_lt numeral) hm
  rw [← Option.some.inj hx]
  exact isFinite_signedBits numeral.negative hlt

end Json

end Flowscript
