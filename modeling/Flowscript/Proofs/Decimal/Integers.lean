import Flowscript.Proofs.Decimal.Rounding

/-!
# Integers as doubles

An integer is taken for the double nearest to it: the first fifty-three of its binary digits are
kept, and rounded to even. So integers of more digits may be taken for the same double, but never
for doubles of the opposite order. The main statements are `stores_ofInt` and `Stores.lt_iff`.
-/

namespace Flowscript

namespace Format

variable {n m d : Nat}

theorem nearestQuotient_one (tie : Tie) (n : Nat) : nearestQuotient tie n 1 = n := by
  simp [nearestQuotient, Nat.mod_one]

theorem nearestQuotient_mul_right (tie : Tie) (n d : Nat) {c : Nat} (hc : 0 < c) :
    nearestQuotient tie (n * c) (d * c) = nearestQuotient tie n d := by
  have hbeyond : d * c < 2 * (n % d * c) ↔ d < 2 * (n % d) := by
    rw [← Nat.mul_assoc]
    exact Nat.mul_lt_mul_right hc
  have htie : d * c = 2 * (n % d * c) ↔ d = 2 * (n % d) := by
    rw [← Nat.mul_assoc]
    exact Nat.mul_left_inj (Nat.ne_of_gt hc)
  simp only [nearestQuotient, Nat.mul_div_mul_right n d hc, Nat.mul_mod_mul_right, hbeyond, htie]

theorem nearestQuotient_mono (tie : Tie) (h : n ≤ m) (d : Nat) :
    nearestQuotient tie n d ≤ nearestQuotient tie m d := by
  rcases Nat.lt_or_eq_of_le (Nat.div_le_div_right h : n / d ≤ m / d) with hlt | heq
  · exact (nearestQuotient_le tie n d).trans (hlt.trans_le (le_nearestQuotient tie m d))
  · have hn := Nat.div_add_mod n d
    have hm := Nat.div_add_mod m d
    rw [heq] at hn
    have hmod : n % d ≤ m % d := by omega
    simp only [nearestQuotient, heq]
    grind

end Format

namespace Double

/-- How many binary digits of a number are more than a double has. -/
def excess (n : Nat) : Nat := Nat.log2 n - 52

/-- The magnitude of the double nearest to a natural number. -/
def magnitude (n : Nat) : Nat :=
  Format.nearestQuotient .toEven n (2 ^ excess n) * 2 ^ excess n

/-- The double nearest to an integer; it is an integer itself. -/
def nearest (i : Int) : Int :=
  i.sign * magnitude i.natAbs

variable {n m : Nat}

theorem magnitude_of_lt (h : n < 2 ^ 53) : magnitude n = n := by
  have hexcess : excess n = 0 := by
    by_cases hn : n = 0
    · simp [excess, hn]
    · have := (Nat.log2_lt hn).mpr h
      unfold excess
      omega
  rw [magnitude, hexcess, Nat.pow_zero, Format.nearestQuotient_one, Nat.mul_one]

theorem two_pow_log2_le_magnitude (hn : n ≠ 0) : 2 ^ Nat.log2 n ≤ magnitude n := by
  have hpow : 2 ^ (Nat.log2 n - excess n) * 2 ^ excess n = 2 ^ Nat.log2 n := by
    rw [← Nat.pow_add]
    congr 1
    unfold excess
    omega
  have hquotient : 2 ^ (Nat.log2 n - excess n) ≤ n / 2 ^ excess n := by
    rw [Nat.le_div_iff_mul_le (Nat.two_pow_pos _), hpow]
    exact Nat.log2_self_le hn
  rw [← hpow]
  exact Nat.mul_le_mul_right _ (hquotient.trans (Format.le_nearestQuotient _ _ _))

theorem magnitude_le_two_pow (n : Nat) : magnitude n ≤ 2 ^ (Nat.log2 n + 1) := by
  have hpow : 2 ^ (Nat.log2 n + 1 - excess n) * 2 ^ excess n = 2 ^ (Nat.log2 n + 1) := by
    rw [← Nat.pow_add]
    congr 1
    unfold excess
    omega
  have hquotient : n / 2 ^ excess n < 2 ^ (Nat.log2 n + 1 - excess n) := by
    rw [Nat.div_lt_iff_lt_mul (Nat.two_pow_pos _), hpow]
    exact Nat.lt_log2_self
  rw [← hpow]
  exact Nat.mul_le_mul_right _ ((Format.nearestQuotient_le _ _ _).trans hquotient)

theorem magnitude_mono (h : n ≤ m) : magnitude n ≤ magnitude m := by
  by_cases hn : n = 0
  · rw [hn, magnitude_of_lt (by decide)]
    exact Nat.zero_le _
  have hm : m ≠ 0 := by omega
  have hlog : Nat.log2 n ≤ Nat.log2 m := (Nat.le_log2 hm).mpr ((Nat.log2_self_le hn).trans h)
  rcases Nat.lt_or_eq_of_le hlog with hlt | heq
  · calc magnitude n ≤ 2 ^ (Nat.log2 n + 1) := magnitude_le_two_pow n
      _ ≤ 2 ^ Nat.log2 m := Nat.pow_le_pow_right (by decide) hlt
      _ ≤ magnitude m := two_pow_log2_le_magnitude hm
  · have hexcess : excess n = excess m := by rw [excess, excess, heq]
    unfold magnitude
    rw [hexcess]
    exact Nat.mul_le_mul_right _ (Format.nearestQuotient_mono _ h _)

theorem nearest_natCast (n : Nat) : nearest n = magnitude n := by
  cases n with
  | zero => simp [nearest, magnitude_of_lt (show 0 < 2 ^ 53 by decide)]
  | succ n => rw [nearest, Int.sign_eq_one_of_pos (by omega), Int.one_mul, Int.natAbs_natCast]

theorem nearest_neg (i : Int) : nearest (-i) = -nearest i := by
  rw [nearest, nearest, Int.sign_neg, Int.natAbs_neg, Int.neg_mul]

/-- Doubles keep the order of the integers that are taken for them. -/
theorem nearest_mono {i j : Int} (h : i ≤ j) : nearest i ≤ nearest j := by
  rcases Int.eq_nat_or_neg i with ⟨n, rfl | rfl⟩ <;>
    rcases Int.eq_nat_or_neg j with ⟨m, rfl | rfl⟩ <;>
    simp only [nearest_neg, nearest_natCast]
  · exact Int.ofNat_le.mpr (magnitude_mono (by omega))
  · obtain ⟨rfl, rfl⟩ : n = 0 ∧ m = 0 := by omega
    simp [magnitude_of_lt (show 0 < 2 ^ 53 by decide)]
  · omega
  · exact Int.neg_le_neg (Int.ofNat_le.mpr (magnitude_mono (by omega)))

section

open Float.Model.UnpackedFloat

/-- What a mantissa and its residual bits tell of the quotient `n / d`. -/
structure Tells (em : ExtendedMantissa) (n d : Nat) : Prop where
  mantissa : em.mantissa = n / d
  roundBit : em.roundBit = true ↔ d ≤ 2 * (n % d)
  stickyBit : em.stickyBit = true ↔ n % d ≠ 0 ∧ d ≠ 2 * (n % d)

variable {em : ExtendedMantissa} {d : Nat}

theorem Tells.shiftRightOne (h : Tells em n d) (hd : 0 < d) :
    Tells em.shiftRightOne n (d * 2) := by
  have hmod : n % (d * 2) = n % d + d * (n / d % 2) := Nat.mod_mul
  have hlt := Nat.mod_lt n hd
  obtain ⟨hmantissa, hround, hsticky⟩ := h
  rcases Nat.mod_two_eq_zero_or_one (n / d) with hbit | hbit <;> rw [hbit] at hmod
  all_goals
    refine ⟨?_, ?_, ?_⟩
    · simp only [ExtendedMantissa.shiftRightOne, hmantissa, Nat.div_div_eq_div_mul]
    · simp only [ExtendedMantissa.shiftRightOne, hmantissa, hbit, hmod]
      simp
      omega
    · simp only [ExtendedMantissa.shiftRightOne, Bool.or_eq_true, hround, hsticky, hmod]
      omega

/-- Shifting keeps track of what is shifted out. -/
theorem tells_shiftRight (m k : Nat) :
    Tells (ExtendedMantissa.ofMantissaAndAccuracy m .exact >>> k) m (2 ^ k) := by
  change Tells (k.repeat ExtendedMantissa.shiftRightOne ⟨m, false, false⟩) m (2 ^ k)
  induction k with
  | zero => constructor <;> simp [Nat.repeat, Nat.mod_one]
  | succ k ih =>
    rw [Nat.repeat, Nat.pow_succ]
    exact ih.shiftRightOne (Nat.two_pow_pos k)

theorem Tells.roundedMantissa (h : Tells em n d) (hd : 0 < d) :
    em.roundedMantissa = Format.nearestQuotient .toEven n d := by
  obtain ⟨hmantissa, hround, hsticky⟩ := h
  have hmod := Nat.mod_lt n hd
  unfold Format.nearestQuotient
  obtain ⟨mantissa, round, sticky⟩ := em
  cases round <;> cases sticky <;>
    simp only [ExtendedMantissa.roundedMantissa, ExtendedMantissa.accuracy,
      Accuracy.roundToNearestEven] at * <;>
    simp at * <;> split <;> omega

open Float.Model.Format (binary64)

/-- An unpacked double with all its digits, and the integer that it denotes. -/
inductive Denotes : Float.Model.UnpackedFloat → Int → Prop where
  | zero (s : Sign) : Denotes (.zero s) 0
  | finite {m t v : Nat} (s : Sign) (hm : 0 < m) (hleast : 2 ^ 52 ≤ m) (hmost : m < 2 ^ 53)
      (ht : t ≤ 1023) (hv : m * 2 ^ t = v * 2 ^ 52) :
      Denotes (.finite s m ((t : Int) - 52) hm) (s.apply v)

theorem targetExponent_binary64 (e : Int) :
    binary64.targetExponent e = max (e - 53) (-1074) := rfl

theorem shiftToTargetExponent_eq {m k : Nat} {e : Int} (hm : Nat.log2 m = k + 52)
    (he : -1074 ≤ e) :
    shiftToTargetExponent binary64 m e .exact =
      (ExtendedMantissa.ofMantissaAndAccuracy m .exact >>> k, e + k) := by
  have hshift : (binary64.targetExponent (Float.Model.totalExponent m e) - e).toNat = k := by
    rw [targetExponent_binary64, Float.Model.totalExponent, hm]
    omega
  rw [shiftToTargetExponent, shiftToExponent, hshift]

theorem log2_mul_two_pow (hn : n ≠ 0) (j : Nat) : Nat.log2 (n * 2 ^ j) = Nat.log2 n + j := by
  have hpow := Nat.two_pow_pos j
  rw [Nat.log2_eq_iff (Nat.mul_ne_zero hn (Nat.ne_of_gt hpow)), Nat.add_right_comm, Nat.pow_add,
    Nat.pow_add]
  exact ⟨Nat.mul_le_mul_right _ (Nat.log2_self_le hn),
    Nat.mul_lt_mul_of_pos_right Nat.lt_log2_self hpow⟩

/-- Digits behind the last one of an integer change nothing. -/
theorem nearestQuotient_shifted {j k : Nat} (hk : Nat.log2 n + j = k + 52) :
    Format.nearestQuotient .toEven (n * 2 ^ j) (2 ^ k) * 2 ^ k = magnitude n * 2 ^ j := by
  by_cases hlog : 52 ≤ Nat.log2 n
  · have hexcess : k = excess n + j := by
      unfold excess
      omega
    rw [hexcess, Nat.pow_add, Format.nearestQuotient_mul_right _ _ _ (Nat.two_pow_pos j), magnitude,
      Nat.mul_assoc]
  · have hlt : n < 2 ^ 53 := Nat.lt_of_lt_of_le Nat.lt_log2_self
      (Nat.pow_le_pow_right (by decide) (by omega))
    obtain ⟨i, rfl⟩ : ∃ i, j = i + k := ⟨j - k, by omega⟩
    have hquotient := Format.nearestQuotient_mul_right .toEven (n * 2 ^ i) 1 (Nat.two_pow_pos k)
    rw [Nat.one_mul, Format.nearestQuotient_one, Nat.mul_assoc, ← Nat.pow_add] at hquotient
    rw [hquotient, magnitude_of_lt hlt, Nat.mul_assoc, ← Nat.pow_add]

/-- Fifty-three digits of a number are kept, or the next power of two. -/
theorem nearestQuotient_digits (hn : n ≠ 0) {j k q : Nat} (hk : Nat.log2 n + j = k + 52)
    (hq : Format.nearestQuotient .toEven (n * 2 ^ j) (2 ^ k) = q) :
    q * 2 ^ Nat.log2 n = magnitude n * 2 ^ 52 ∧ 2 ^ 52 ≤ q ∧ q ≤ 2 ^ 53 := by
  have hlog := Nat.two_pow_pos (Nat.log2 n)
  have hvalue : q * 2 ^ Nat.log2 n = magnitude n * 2 ^ 52 := by
    refine Nat.eq_of_mul_eq_mul_right (Nat.two_pow_pos j) ?_
    calc q * 2 ^ Nat.log2 n * 2 ^ j = q * 2 ^ k * 2 ^ 52 := by
          rw [Nat.mul_assoc, Nat.mul_assoc, ← Nat.pow_add, ← Nat.pow_add, hk]
      _ = magnitude n * 2 ^ 52 * 2 ^ j := by
          rw [← hq, nearestQuotient_shifted hk, Nat.mul_right_comm]
  refine ⟨hvalue, Nat.le_of_mul_le_mul_right ?_ hlog, Nat.le_of_mul_le_mul_right ?_ hlog⟩
  · rw [hvalue, Nat.mul_comm]
    exact Nat.mul_le_mul_right _ (two_pow_log2_le_magnitude hn)
  · calc q * 2 ^ Nat.log2 n = magnitude n * 2 ^ 52 := hvalue
      _ ≤ 2 ^ (Nat.log2 n + 1) * 2 ^ 52 := Nat.mul_le_mul_right _ (magnitude_le_two_pow n)
      _ = 2 ^ 53 * 2 ^ Nat.log2 n := by
        rw [← Nat.pow_add, ← Nat.pow_add]
        congr 1
        omega

/-- What rounding comes to, told by its two shifts. -/
theorem roundWithAccuracy_eq {s : Sign} {m q r : Nat} {e e' e'' : Int} {em em' : ExtendedMantissa}
    (hfirst : shiftToTargetExponent binary64 m e .exact = (em, e')) (hq : em.roundedMantissa = q)
    (hsecond : shiftToTargetExponent binary64 q e' .exact = (em', e'')) (hr : em'.mantissa = r)
    (hpos : 0 < r) : roundWithAccuracy binary64 s m e .exact = .finite s r e'' hpos := by
  subst hq hr
  unfold roundWithAccuracy
  rw [hfirst]
  dsimp only
  rw [hsecond]
  exact dif_neg (Nat.ne_of_gt hpos)

/-- Rounding keeps the digits that a double has room for. -/
theorem denotes_roundWithAccuracy (s : Sign) {j : Nat} (hn : n ≠ 0) (hlog : Nat.log2 n < 1023)
    (hj : 52 ≤ Nat.log2 n + j) (hj' : j ≤ 1074) :
    Denotes (roundWithAccuracy binary64 s (n * 2 ^ j) (-j) .exact) (s.apply (magnitude n)) := by
  obtain ⟨k, hk⟩ : ∃ k, Nat.log2 n + j = k + 52 := ⟨Nat.log2 n + j - 52, by omega⟩
  obtain ⟨q, hq⟩ : ∃ q, Format.nearestQuotient .toEven (n * 2 ^ j) (2 ^ k) = q := ⟨_, rfl⟩
  obtain ⟨hvalue, hleast, hmost⟩ := nearestQuotient_digits hn hk hq
  have hfirst := shiftToTargetExponent_eq (e := -j) ((log2_mul_two_pow hn j).trans hk) (by omega)
  have hexponent : -(j : Int) + k = Nat.log2 n - 52 := by omega
  rw [hexponent] at hfirst
  have hrounded := (tells_shiftRight (n * 2 ^ j) k).roundedMantissa (Nat.two_pow_pos k)
  rw [hq] at hrounded
  rcases Nat.lt_or_eq_of_le hmost with hlt | rfl
  · have hdigits : Nat.log2 q = 0 + 52 := (Nat.log2_eq_iff (by omega)).mpr ⟨hleast, hlt⟩
    have hsecond := shiftToTargetExponent_eq (e := Nat.log2 n - 52) hdigits (by omega)
    rw [Int.natCast_zero, Int.add_zero] at hsecond
    rw [roundWithAccuracy_eq hfirst hrounded hsecond (r := q) rfl (by omega)]
    exact .finite s _ hleast hlt (Nat.le_of_lt hlog) hvalue
  · -- What is rounded up to the next power of two has one digit more than there is room for.
    have hsecond := shiftToTargetExponent_eq (e := Nat.log2 n - 52)
      (m := 2 ^ 53) (k := 1) Nat.log2_two_pow (by omega)
    have hcarry : (Nat.log2 n : Int) - 52 + (1 : Nat) = (Nat.log2 n + 1 : Nat) - 52 := by omega
    rw [hcarry] at hsecond
    rw [roundWithAccuracy_eq hfirst hrounded hsecond (r := 2 ^ 52) (by decide) (by decide)]
    refine .finite s _ (Nat.le_refl _) (by decide) hlog ?_
    rw [← hvalue, ← Nat.pow_add, ← Nat.pow_add]
    congr 1
    omega

/-- The integer that an unpacked double denotes when its sign is turned. -/
theorem Denotes.neg {x : Float.Model.UnpackedFloat} {i : Int} (h : Denotes x i) :
    Denotes x.neg (-i) := by
  cases h with
  | zero s => exact .zero (-s)
  | @finite m t v s hm hleast hmost ht hv =>
    have hsign : -s.apply v = (-s).apply v := by
      cases s
      · exact Int.neg_neg _
      · rfl
    rw [hsign]
    exact .finite (-s) hm hleast hmost ht hv

theorem toNat_one_append {m : Nat} (hleast : 2 ^ 52 ≤ m) (hmost : m < 2 ^ 53) :
    (1#1 ++ BitVec.ofNat 52 m).toNat = m := by
  rw [BitVec.toNat_append, ← Nat.shiftLeft_add_eq_or_of_lt (BitVec.isLt _), BitVec.toNat_ofNat,
    BitVec.toNat_ofNat, Nat.shiftLeft_eq]
  omega

theorem unpackSign_packComponents (s : Sign) (e : BitVec 11) (m : BitVec 52) :
    unpackSign (packComponents binary64 s e m) = s.toBitVec := by
  change (s.toBitVec ++ e ++ m).extractLsb' 63 1 = s.toBitVec
  rw [BitVec.extractLsb'_append_eq_of_le (by decide),
    BitVec.extractLsb'_append_eq_of_le (by decide)]
  cases s <;> rfl

theorem ofBitVec_toBitVec (s : Sign) : Sign.ofBitVec s.toBitVec = s := by
  cases s <;> rfl

theorem pack_finite (s : Sign) {m t : Nat} (hm : 0 < m) (hleast : 2 ^ 52 ≤ m) (hmost : m < 2 ^ 53)
    (ht : t ≤ 1023) : pack binary64 (.finite s m ((t : Int) - 52) hm) =
      packComponents binary64 s (BitVec.ofNat 11 (t + 1023)) (BitVec.ofNat 52 m) := by
  have hlog : Nat.log2 m + 1 = binary64.mantissaBits :=
    congrArg (· + 1) ((Nat.log2_eq_iff (Nat.ne_of_gt hm)).mpr ⟨hleast, hmost⟩)
  have hbiased : ((t : Int) - 52 + binary64.exponentBias +
      binary64.mantissaBitsWithoutImplicit).toNat = t + 1023 := by
    change ((t : Int) - 52 + 1023 + 52).toNat = t + 1023
    omega
  have hrange : ¬ 2 ^ binary64.exponentBits ≤ t + 1023 + 1 := by
    change ¬ 2048 ≤ t + 1023 + 1
    omega
  unfold pack
  dsimp only
  rw [hbiased, if_neg hrange, if_pos hlog]

theorem exists_unpack_eq_finite {b : BitVec binary64.numBits}
    (hinfinity : unpackExponent b ≠ -1#_) (hsmall : unpackExponent b ≠ 0#_) :
    ∃ hpos, unpack binary64 b = .finite (Sign.ofBitVec (unpackSign b))
      (1#1 ++ unpackMantissa b).toNat ((unpackExponent b).toNat - (1023 + 52)) hpos := by
  delta unpack
  dsimp only
  rw [if_neg hinfinity, if_neg hsmall]
  exact ⟨_, rfl⟩

/-- A double that denotes an integer loses nothing when it is stored. -/
theorem Denotes.unpack_pack {x : Float.Model.UnpackedFloat} {i : Int} (h : Denotes x i) :
    unpack binary64 (pack binary64 x) = x := by
  cases h with
  | zero s => cases s <;> rfl
  | @finite m t v s hm hleast hmost ht hv =>
    have hfield : (BitVec.ofNat 11 (t + 1023)).toNat = t + 1023 := by
      rw [BitVec.toNat_ofNat]
      omega
    have hinfinity : BitVec.ofNat 11 (t + 1023) ≠ -1#11 := by
      intro heq
      have hnat : (BitVec.ofNat 11 (t + 1023)).toNat = 2047 := congrArg BitVec.toNat heq
      omega
    have hsmall : BitVec.ofNat 11 (t + 1023) ≠ 0#11 := by
      intro heq
      have hnat : (BitVec.ofNat 11 (t + 1023)).toNat = 0 := congrArg BitVec.toNat heq
      omega
    rw [pack_finite s hm hleast hmost ht]
    obtain ⟨hpos, hunpack⟩ := exists_unpack_eq_finite
      (b := packComponents binary64 s (BitVec.ofNat 11 (t + 1023)) (BitVec.ofNat 52 m))
      (by rwa [unpackExponent_packComponents]) (by rwa [unpackExponent_packComponents])
    rw [hunpack, Float.Model.UnpackedFloat.finite.injEq, unpackExponent_packComponents,
      unpackMantissa_packComponents, unpackSign_packComponents, ofBitVec_toBitVec]
    refine ⟨rfl, toNat_one_append hleast hmost, ?_⟩
    rw [hfield]
    omega

theorem lt_of_field_lt {m t v m' t' v' : Nat} (hmost : m < 2 ^ 53) (hleast : 2 ^ 52 ≤ m')
    (hv : m * 2 ^ t = v * 2 ^ 52) (hv' : m' * 2 ^ t' = v' * 2 ^ 52) (h : t < t') : v < v' := by
  refine Nat.lt_of_mul_lt_mul_right (a := 2 ^ 52) ?_
  calc v * 2 ^ 52 = m * 2 ^ t := hv.symm
    _ < 2 ^ 53 * 2 ^ t := Nat.mul_lt_mul_of_pos_right hmost (Nat.two_pow_pos t)
    _ = 2 ^ 52 * 2 ^ (t + 1) := by
      rw [← Nat.pow_add, ← Nat.pow_add]
      congr 1
      omega
    _ ≤ m' * 2 ^ t' := Nat.mul_le_mul hleast (Nat.pow_le_pow_right (by decide) h)
    _ = v' * 2 ^ 52 := hv'

theorem lt_of_mantissa_lt {m t v m' v' : Nat} (hv : m * 2 ^ t = v * 2 ^ 52)
    (hv' : m' * 2 ^ t = v' * 2 ^ 52) (h : m < m') : v < v' := by
  refine Nat.lt_of_mul_lt_mul_right (a := 2 ^ 52) ?_
  rw [← hv, ← hv']
  exact Nat.mul_lt_mul_of_pos_right h (Nat.two_pow_pos t)

/-- Of two doubles with all their digits, the exponents decide which is less, and then the
mantissas. -/
theorem compare_fields {m t v m' t' v' : Nat} (hleast : 2 ^ 52 ≤ m) (hmost : m < 2 ^ 53)
    (hleast' : 2 ^ 52 ≤ m') (hmost' : m' < 2 ^ 53) (hv : m * 2 ^ t = v * 2 ^ 52)
    (hv' : m' * 2 ^ t' = v' * 2 ^ 52) :
    (compare ((t : Int) - 52) (t' - 52)).then (compare m m') = compare (v : Int) v' := by
  rcases Nat.lt_trichotomy t t' with hlt | rfl | hgt
  · have hless := lt_of_field_lt hmost hleast' hv hv' hlt
    rw [Int.compare_eq_lt.mpr (by omega), Int.compare_eq_lt.mpr (Int.ofNat_lt.mpr hless)]
    rfl
  · rw [Int.compare_eq_eq.mpr rfl]
    rcases Nat.lt_trichotomy m m' with hlt | rfl | hgt
    · have hless := lt_of_mantissa_lt hv hv' hlt
      rw [Nat.compare_eq_lt.mpr hlt, Int.compare_eq_lt.mpr (Int.ofNat_lt.mpr hless)]
      rfl
    · have hsame : v = v' :=
        Nat.eq_of_mul_eq_mul_right (Nat.two_pow_pos 52) (hv.symm.trans hv')
      rw [Nat.compare_eq_eq.mpr rfl, Int.compare_eq_eq.mpr (congrArg _ hsame)]
      rfl
    · have hless := lt_of_mantissa_lt hv' hv hgt
      rw [Nat.compare_eq_gt.mpr hgt, Int.compare_eq_gt.mpr (Int.ofNat_lt.mpr hless)]
      rfl
  · have hless := lt_of_field_lt hmost' hleast hv' hv hgt
    rw [Int.compare_eq_gt.mpr (by omega), Int.compare_eq_gt.mpr (Int.ofNat_lt.mpr hless)]
    rfl

theorem compare_neg (i j : Int) : compare (-i) (-j) = (compare i j).swap := by
  rw [Int.compare_swap, Int.compare_eq_ite_lt, Int.compare_eq_ite_lt]
  simp only [Int.neg_lt_neg_iff]

/-- Doubles compare as the integers do that they denote. -/
theorem compare_of_denotes {x y : Float.Model.UnpackedFloat} {i j : Int} (hx : Denotes x i)
    (hy : Denotes y j) : x.compare y = some (compare i j) := by
  have hpos {m t v : Nat} (hm : 0 < m) (hv : m * 2 ^ t = v * 2 ^ 52) : (0 : Int) < v := by
    have hproduct := Nat.mul_pos hm (Nat.two_pow_pos t)
    omega
  cases hx with
  | zero s =>
    cases hy with
    | zero s' => rfl
    | finite s' hm' _ _ _ hv' =>
      have hv' := hpos hm' hv'
      cases s'
      · exact congrArg some (Int.compare_eq_gt.mpr (Int.neg_neg_of_pos hv')).symm
      · exact congrArg some (Int.compare_eq_lt.mpr hv').symm
  | finite s hm hleast hmost _ hv =>
    have hi := hpos hm hv
    cases hy with
    | zero s' =>
      cases s
      · exact congrArg some (Int.compare_eq_lt.mpr (Int.neg_neg_of_pos hi)).symm
      · exact congrArg some (Int.compare_eq_gt.mpr hi).symm
    | finite s' hm' hleast' hmost' _ hv' =>
      have hj := hpos hm' hv'
      have hfields := compare_fields hleast hmost hleast' hmost' hv hv'
      cases s <;> cases s'
      · exact congrArg some ((congrArg Ordering.swap hfields).trans (compare_neg _ _).symm)
      · exact congrArg some (Int.compare_eq_lt.mpr (Int.lt_trans (Int.neg_neg_of_pos hi) hj)).symm
      · exact congrArg some (Int.compare_eq_gt.mpr (Int.lt_trans (Int.neg_neg_of_pos hj) hi)).symm
      · exact congrArg some hfields

/-- A double and the integer that it denotes. -/
def Stores (x : Float) (i : Int) : Prop :=
  Denotes x.toModel.unpack i

theorem stores_of_denotes {u : Float.Model.UnpackedFloat} {i : Int} (h : Denotes u i) :
    Stores (.ofModel (.pack u)) i := by
  have hunpack : (Float.Model.pack u).unpack = u := h.unpack_pack
  change Denotes (Float.Model.pack u).unpack i
  rwa [hunpack]

theorem Stores.neg {x : Float} {i : Int} (h : Stores x i) : Stores x.neg (-i) :=
  stores_of_denotes (Denotes.neg h)

theorem Stores.lt_iff {x y : Float} {i j : Int} (hx : Stores x i) (hy : Stores y j) :
    x < y ↔ i < j := by
  have hcompare := compare_of_denotes hx hy
  change decide (x.toModel.unpack.lt y.toModel.unpack = true) = true ↔ i < j
  rw [decide_eq_true_iff, Float.Model.UnpackedFloat.lt, hcompare, beq_iff_eq, Option.some_inj,
    Int.compare_eq_lt]

theorem Stores.le_iff {x y : Float} {i j : Int} (hx : Stores x i) (hy : Stores y j) :
    x ≤ y ↔ i ≤ j := by
  have hcompare := compare_of_denotes hx hy
  change decide (x.toModel.unpack.le y.toModel.unpack = true) = true ↔ i ≤ j
  rw [decide_eq_true_iff, Float.Model.UnpackedFloat.le, hcompare, Option.any_some, Int.isLE_compare]

/-- The double of a number that has room for all its digits. -/
theorem stores_toFloat (hn : n < 2 ^ 53) : Stores n.toUInt64.toFloat n := by
  have hword : n.toUInt64.toNat = n := by
    change n % 2 ^ 64 = n
    omega
  refine stores_of_denotes (u := Float.Model.UnpackedFloat.normalize binary64
    (n.toUInt64.toNat : Int) 0 .positive) ?_
  rw [hword]
  by_cases hzero : n = 0
  · subst hzero
    exact .zero _
  have hlog : Nat.log2 n < 53 := (Nat.log2_lt hzero).mpr hn
  obtain ⟨j, hj⟩ : ∃ j, Nat.log2 n + j = 52 := ⟨52 - Nat.log2 n, by omega⟩
  have hsign : compare (n : Int) 0 = .gt := Int.compare_eq_gt.mpr (by omega)
  have hshift : (0 - binary64.targetExponent (Float.Model.totalExponent n 0)).toNat = j := by
    rw [targetExponent_binary64, Float.Model.totalExponent]
    omega
  have hrounded := denotes_roundWithAccuracy .positive hzero (by omega) (Nat.le_of_eq hj.symm)
    (by omega)
  rw [magnitude_of_lt hn] at hrounded
  unfold Float.Model.UnpackedFloat.normalize
  simp only [hsign, Int.toNat_natCast, Float.Model.UnpackedFloat.round, decreaseExponent]
  rwa [hshift, Nat.shiftLeft_eq, Int.zero_sub]

/-- Multiplying by the double of one changes no double that denotes a small integer. -/
theorem Stores.mul_one {x : Float} (hx : Stores x n) (hn : n < 2 ^ 53) :
    Stores (x * .ofBits 0x3FF0000000000000) n := by
  have hone : (Float.ofBits 0x3FF0000000000000).toModel.unpack =
      .finite .positive (2 ^ 52) (-52) (by decide) := rfl
  change Stores (.ofModel (.pack (mul binary64 x.toModel.unpack
    (Float.ofBits 0x3FF0000000000000).toModel.unpack))) n
  rw [hone]
  refine stores_of_denotes ?_
  unfold Stores at hx
  generalize x.toModel.unpack = u at hx
  generalize hi : (n : Int) = i at hx
  cases hx with
  | zero s => exact .zero _
  | @finite m t v s hm hleast hmost ht hv =>
    have hpos : 0 < v := by
      have hproduct := Nat.mul_pos hm (Nat.two_pow_pos t)
      omega
    cases s with
    | negative =>
      have hneg : (n : Int) = -v := hi
      omega
    | positive =>
      have hv' : v < 2 ^ 53 := Int.ofNat.inj hi ▸ hn
      have ht : t < 53 := by
        refine (Nat.pow_lt_pow_iff_right (by decide : 1 < 2)).mp ?_
        refine Nat.lt_of_mul_lt_mul_left (a := 2 ^ 52) ?_
        calc 2 ^ 52 * 2 ^ t ≤ m * 2 ^ t := Nat.mul_le_mul_right _ hleast
          _ = v * 2 ^ 52 := hv
          _ < 2 ^ 52 * 2 ^ 53 := by omega
      obtain ⟨j, hj⟩ : ∃ j, j + t = 52 := ⟨52 - t, by omega⟩
      have hmantissa : m * 2 ^ 52 = v * 2 ^ (j + 52) := by
        calc m * 2 ^ 52 = m * 2 ^ t * 2 ^ j := by
              rw [Nat.mul_assoc, ← Nat.pow_add, Nat.add_comm, hj]
          _ = v * 2 ^ (j + 52) := by rw [hv, Nat.mul_assoc, ← Nat.pow_add, Nat.add_comm]
      have hexponent : (t : Int) - 52 + -52 = -(j + 52 : Nat) := by omega
      have hlog : Nat.log2 v < 53 := (Nat.log2_lt (Nat.ne_of_gt hpos)).mpr hv'
      have hrounded := denotes_roundWithAccuracy .positive (j := j + 52) (Nat.ne_of_gt hpos)
        (by omega) (by omega) (by omega)
      rw [magnitude_of_lt hv', ← hmantissa, ← hexponent] at hrounded
      exact hrounded

theorem ofScientific_eq (hn : n ≠ 0) :
    ofScientific binary64 n 0 = roundWithAccuracy binary64 .positive (n * 2 ^ 53) (-53) .exact := by
  have hsmall : ¬ (0 : Int) < -(2 ^ binary64.exponentBits + Nat.log2 n) := by
    change ¬ (0 : Int) < -(2048 + Nat.log2 n)
    omega
  rw [ofScientific, dif_neg hn, if_neg (by decide), if_neg hsmall, if_pos (Int.le_refl 0)]
  unfold mul
  simp only [Nat.shiftLeft_eq, Int.toNat_zero, Nat.pow_zero, Nat.mul_one, Int.add_zero]
  rfl

theorem stores_ofNat (hn : Nat.log2 n < 1023) : Stores (.ofNat n) (magnitude n) := by
  change Stores (Float.ofScientific n false 0) _
  unfold Float.ofScientific
  split
  · next hsmall =>
    rw [magnitude_of_lt hsmall.1]
    exact (stores_toFloat hsmall.1).mul_one hsmall.1
  · next hlarge =>
    have hzero : n ≠ 0 := by
      rintro rfl
      exact hlarge (by decide)
    refine stores_of_denotes ?_
    change Denotes (ofScientific binary64 n 0) _
    rw [ofScientific_eq hzero]
    exact denotes_roundWithAccuracy .positive hzero (j := 53) hn (by omega) (by omega)

theorem stores_ofInt {i : Int} (hi : Nat.log2 i.natAbs < 1023) : Stores (.ofInt i) (nearest i) := by
  cases i with
  | ofNat n =>
    rw [Int.ofNat_eq_natCast, nearest_natCast]
    exact stores_ofNat hi
  | negSucc n =>
    rw [Int.negSucc_eq, ← Int.natCast_succ, nearest_neg, nearest_natCast]
    exact (stores_ofNat hi).neg

end

end Double

end Flowscript
