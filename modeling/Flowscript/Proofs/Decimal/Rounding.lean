import Mathlib.Algebra.Group.Nat.Defs
import Flowscript.Proofs.Decimal.Printing

/-!
# How large a rounded number is

The nearest stored magnitude of a quotient has an exponent field that grows with the power of two
which the quotient reaches or stays below, and what is stored has units within the power of two that
its exponent field tells. So dividing by one or more gives an exponent field not far above that of
the dividend.
-/

namespace Flowscript.Format

variable {f : Format} {n d e k m : Nat}

theorem span_eq (f : Format) : f.span = 2 ^ f.fractionBits := by
  rw [span, Nat.shiftLeft_eq, Nat.one_mul]

theorem nearestQuotient_le (tie : Tie) (n d : Nat) : nearestQuotient tie n d ≤ n / d + 1 := by
  unfold nearestQuotient
  dsimp only
  split <;> omega

theorem le_nearestQuotient (tie : Tie) (n d : Nat) : n / d ≤ nearestQuotient tie n d := by
  unfold nearestQuotient
  dsimp only
  split <;> omega

/-- Nothing is nearer to a quotient than half the divisor. -/
theorem nearestQuotient_near (tie : Tie) (hd : 0 < d) :
    2 * (nearestQuotient tie n d * d) ≤ 2 * n + d ∧
      2 * n ≤ 2 * (nearestQuotient tie n d * d) + d := by
  have hn := Nat.div_add_mod' n d
  have hmod := Nat.mod_lt n hd
  unfold nearestQuotient
  dsimp only
  split
  · rw [Nat.add_mul, Nat.one_mul]
    omega
  · omega

/-- The spacing of the values is so chosen that a quotient fills one span at most. -/
theorem div_shiftLeft_lt (f : Format) (n d : Nat) :
    n / (d <<< (Nat.log2 (n / d) - f.fractionBits)) < 2 * f.span := by
  have hlog : n / d < 2 ^ (Nat.log2 (n / d) + 1) := Nat.lt_log2_self
  have hpow : 2 ^ (Nat.log2 (n / d) + 1) ≤
      2 ^ (f.fractionBits + 1) * 2 ^ (Nat.log2 (n / d) - f.fractionBits) := by
    rw [← Nat.pow_add]
    exact Nat.pow_le_pow_right (by decide) (by omega)
  rw [Nat.shiftLeft_eq, ← Nat.div_div_eq_div_mul, f.span_eq, ← Nat.pow_succ']
  exact (Nat.div_lt_iff_lt_mul (Nat.two_pow_pos _)).mpr (hlog.trans_le hpow)

/-- A quotient that has the digits for it fills one span at least. -/
theorem span_le_div_shiftLeft (f : Format) (hzero : n / d ≠ 0)
    (hbits : f.fractionBits ≤ Nat.log2 (n / d)) :
    f.span ≤ n / (d <<< (Nat.log2 (n / d) - f.fractionBits)) := by
  rw [Nat.shiftLeft_eq, ← Nat.div_div_eq_div_mul, Nat.le_div_iff_mul_le (Nat.two_pow_pos _),
    f.span_eq, ← Nat.pow_add, Nat.add_sub_cancel' hbits]
  exact Nat.log2_self_le hzero

theorem log2_div_le (h : n < d * 2 ^ e) : Nat.log2 (n <<< f.scale / d) ≤ e + f.scale := by
  have hd : 0 < d := Nat.pos_of_mul_pos_right (Nat.zero_lt_of_lt h)
  have hlt : n <<< f.scale / d < 2 ^ (e + f.scale) := by
    rw [Nat.div_lt_iff_lt_mul hd, Nat.shiftLeft_eq, Nat.pow_add, Nat.mul_comm _ d, ← Nat.mul_assoc]
    exact Nat.mul_lt_mul_of_pos_right h (Nat.two_pow_pos _)
  by_cases hzero : n <<< f.scale / d = 0
  · simp [hzero]
  · exact Nat.le_of_lt ((Nat.log2_lt hzero).mpr hlt)

theorem nearest_le (h : n < d * 2 ^ e) :
    f.nearest n d ≤ (e + f.scale - f.fractionBits + 2) * f.span := by
  have hlog := log2_div_le (f := f) h
  have hspan := f.div_shiftLeft_lt (n <<< f.scale) d
  have hquotient := nearestQuotient_le .toEven (n <<< f.scale)
    (d <<< (Nat.log2 (n <<< f.scale / d) - f.fractionBits))
  have hfields : (Nat.log2 (n <<< f.scale / d) - f.fractionBits) * f.span ≤
      (e + f.scale - f.fractionBits) * f.span := Nat.mul_le_mul_right _ (by omega)
  rw [nearest, Nat.add_mul]
  omega

theorem le_nearest (hd : 0 < d) (h : d ≤ n) (hf : f.fractionBits ≤ f.scale) :
    (f.scale - f.fractionBits + 1) * f.span ≤ f.nearest n d := by
  have hquotient : 2 ^ f.scale ≤ n <<< f.scale / d := by
    rw [Nat.le_div_iff_mul_le hd, Nat.shiftLeft_eq, Nat.mul_comm]
    exact Nat.mul_le_mul_right _ h
  have hzero : n <<< f.scale / d ≠ 0 :=
    Nat.ne_of_gt ((Nat.two_pow_pos _).trans_le hquotient)
  have hlog : f.scale ≤ Nat.log2 (n <<< f.scale / d) := (Nat.le_log2 hzero).mpr hquotient
  have hspan := f.span_le_div_shiftLeft hzero (hf.trans hlog)
  have hnearest := le_nearestQuotient .toEven (n <<< f.scale)
    (d <<< (Nat.log2 (n <<< f.scale / d) - f.fractionBits))
  have hfields : (f.scale - f.fractionBits) * f.span ≤
      (Nat.log2 (n <<< f.scale / d) - f.fractionBits) * f.span := Nat.mul_le_mul_right _ (by omega)
  rw [nearest, Nat.add_mul]
  omega

theorem le_units (h : (k + 1) * f.span ≤ m) : 2 ^ (f.fractionBits + k) ≤ f.units m := by
  have hfield : k + 1 ≤ m / f.span := (Nat.le_div_iff_mul_le f.span_pos).mpr h
  have hspan : f.span ≤ m := (Nat.le_mul_of_pos_left _ (Nat.succ_pos k)).trans h
  rw [units, if_neg (Nat.not_lt.mpr hspan), Nat.shiftLeft_eq, Nat.pow_add, ← f.span_eq, doublings]
  exact Nat.mul_le_mul (Nat.le_add_right _ _)
    (Nat.pow_le_pow_right (by decide) (Nat.le_sub_of_add_le hfield))

/-- What is one or more is not stored as less than one. -/
theorem scale_le_units_rounded (hd : 0 < d) (h : d ≤ n) (hf : f.fractionBits ≤ f.scale)
    (hone : (f.scale - f.fractionBits + 1) * f.span ≤ f.infinity) :
    2 ^ f.scale ≤ f.units (f.rounded n d) := by
  have hunits := le_units (Nat.le_min.mpr ⟨hone, le_nearest hd h hf⟩)
  rwa [Nat.add_sub_cancel' hf] at hunits

theorem units_lt (h : m < k * f.span) : f.units m < 2 ^ (f.fractionBits + k) := by
  have hfield : m / f.span < k := (Nat.div_lt_iff_lt_mul f.span_pos).mpr h
  have hk : 0 < k := Nat.zero_lt_of_lt hfield
  have hmod := Nat.mod_lt m f.span_pos
  unfold units
  split
  · next hm =>
    rw [f.span_eq] at hm
    exact hm.trans_le (Nat.pow_le_pow_right (by decide) (by omega))
  · have hfraction : f.span + m % f.span < 2 ^ (f.fractionBits + 1) := by
      rw [Nat.pow_succ, ← f.span_eq]
      omega
    have hspacing : 2 ^ f.doublings m ≤ 2 ^ (k - 1) :=
      Nat.pow_le_pow_right (by decide) (Nat.sub_le_sub_right (Nat.le_of_lt hfield) 1)
    calc (f.span + m % f.span) <<< f.doublings m
        = (f.span + m % f.span) * 2 ^ f.doublings m := Nat.shiftLeft_eq _ _
      _ < 2 ^ (f.fractionBits + 1) * 2 ^ (k - 1) :=
          Nat.mul_lt_mul_of_lt_of_le hfraction hspacing (Nat.two_pow_pos _)
      _ = 2 ^ (f.fractionBits + k) := by
          rw [← Nat.pow_add]
          congr 1
          omega

/-- Dividing by one or more adds at most three to a bound on the exponent field. -/
theorem div_lt {a b : Nat} (ha : a < k * f.span) (hb : 2 ^ f.scale ≤ f.units b)
    (hk : f.scale ≤ f.fractionBits + k) : f.div a b < (k + 3) * f.span := by
  have hunits : f.units a < f.units b * 2 ^ (f.fractionBits + k - f.scale) := by
    calc f.units a < 2 ^ (f.fractionBits + k) := units_lt ha
      _ = 2 ^ f.scale * 2 ^ (f.fractionBits + k - f.scale) := by
          rw [← Nat.pow_add, Nat.add_sub_cancel' hk]
      _ ≤ f.units b * 2 ^ (f.fractionBits + k - f.scale) := Nat.mul_le_mul_right _ hb
  calc f.div a b ≤ f.nearest (f.units a) (f.units b) := Nat.min_le_right _ _
    _ ≤ (f.fractionBits + k - f.scale + f.scale - f.fractionBits + 2) * f.span := nearest_le hunits
    _ = (k + 2) * f.span := by
        congr 2
        omega
    _ < (k + 3) * f.span := Nat.mul_lt_mul_of_pos_right (by omega) f.span_pos

end Flowscript.Format
