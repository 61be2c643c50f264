import Mathlib.Algebra.Order.Field.Basic
import Mathlib.Algebra.Order.Field.Power
import Mathlib.Algebra.Order.Group.Abs
import Mathlib.Data.Rat.Cast.Order
import Mathlib.Order.Monotone.Basic
import Mathlib.Tactic.FieldSimp
import Mathlib.Tactic.Linarith
import Mathlib.Tactic.NormNum
import Mathlib.Tactic.Positivity
import Mathlib.Tactic.Ring
import Flowscript.Proofs.Decimal.Rounding

/-!
# Rounding to the nearest number

A decimal number is rounded to the stored magnitude whose value is nearest to it, and of two that
are equally near to the even one. This tells the magnitude, since the values of the stored
magnitudes increase. The main statements are `isNearest_binary64` and `IsNearest.unique`; that
doubles have the values of their magnitudes is `unpackedValue_eq`.
-/

namespace Flowscript

namespace Digits

theorem lt_ten_pow_count (n : Nat) : n < 10 ^ count n :=
  (Nat.length_toDigits_le_iff (by decide) Nat.length_toDigits_pos).mp (Nat.le_refl _)

theorem ten_pow_le {n : Nat} (hn : n ≠ 0) : 10 ^ (count n - 1) ≤ n := by
  by_cases hone : count n - 1 = 0
  · rw [hone]
    omega
  · by_contra hlt
    have hle := (Nat.length_toDigits_le_iff (b := 10) (by decide) (by omega)).mpr (not_le.mp hlt)
    change count n ≤ count n - 1 at hle
    omega

end Digits

/-- The number that a decimal denotes. -/
def Decimal.toRat (x : Decimal) : ℚ :=
  x.coefficient * 10 ^ x.exponent

namespace Format

/-- The value of a stored magnitude. Infinity stands for the power of two behind the finite
values. -/
def value (f : Format) (m : Nat) : ℚ :=
  f.units m / 2 ^ f.scale

/-- The stored magnitude that a number is rounded to. -/
structure IsNearest (f : Format) (q : ℚ) (m : Nat) : Prop where
  le_infinity : m ≤ f.infinity
  /-- No value is nearer. -/
  near (k : Nat) (hk : k ≤ f.infinity) : |f.value m - q| ≤ |f.value k - q|
  /-- If another value is as near, this is the even one. -/
  even (k : Nat) (hk : k ≤ f.infinity) (hne : k ≠ m) (htie : |f.value k - q| = |f.value m - q|) :
    m % 2 = 0

variable {f : Format} {q : ℚ} {n d k m t r : Nat}

/-! ## The values of stored magnitudes -/

/-- The number of values in two spans is `2 * f.span`, and they are spaced alike. -/
theorem units_add (hr : r ≤ 2 * f.span) (h : t = 0 ∨ f.span ≤ r) :
    f.units (t * f.span + r) = r * 2 ^ t := by
  have hspan := f.span_pos
  by_cases hsmall : r < f.span
  · obtain rfl : t = 0 := by omega
    simp [units, hsmall]
  by_cases hlast : r = 2 * f.span
  · subst hlast
    have hm : t * f.span + 2 * f.span = (t + 2) * f.span := by ring
    have hlarge : ¬ (t + 2) * f.span < f.span := by nlinarith
    rw [hm, units, if_neg hlarge, doublings, Nat.mul_mod_left, Nat.mul_div_cancel _ hspan,
      Nat.shiftLeft_eq, Nat.add_zero]
    have ht : t + 2 - 1 = t + 1 := by omega
    rw [ht, Nat.pow_succ]
    ring
  · obtain ⟨r, rfl⟩ := Nat.exists_eq_add_of_le (Nat.not_lt.mp hsmall)
    have hr' : r < f.span := by omega
    have hm : t * f.span + (f.span + r) = r + f.span * (t + 1) := by ring
    have hlarge : ¬ r + f.span * (t + 1) < f.span := by nlinarith
    rw [hm, units, if_neg hlarge, doublings, Nat.add_mul_mod_self_left, Nat.mod_eq_of_lt hr',
      Nat.add_mul_div_left _ _ hspan, Nat.div_eq_of_lt hr', Nat.shiftLeft_eq]
    simp

/-- A stored magnitude among those that are spaced like it. -/
theorem exists_eq_add (f : Format) (m : Nat) :
    ∃ r, m = f.doublings m * f.span + r ∧ r < 2 * f.span ∧ (f.doublings m = 0 ∨ f.span ≤ r) := by
  have hsplit := Nat.div_add_mod' m f.span
  have hmod := Nat.mod_lt m f.span_pos
  unfold doublings
  obtain hfield | ⟨e, hfield⟩ : m / f.span = 0 ∨ ∃ e, m / f.span = e + 1 :=
    (Nat.eq_zero_or_eq_succ_pred _).imp_right fun h => ⟨_, h⟩
  · rw [hfield] at hsplit ⊢
    exact ⟨m, by omega, by omega, .inl rfl⟩
  · rw [hfield, Nat.add_mul, Nat.one_mul] at hsplit
    rw [hfield, Nat.add_sub_cancel]
    exact ⟨f.span + m % f.span, by omega, by omega, .inr (Nat.le_add_right _ _)⟩

theorem units_succ (f : Format) (m : Nat) :
    f.units (m + 1) = f.units m + 2 ^ f.doublings m := by
  obtain ⟨r, hm, hr, hfield⟩ := f.exists_eq_add m
  have hthis := units_add (Nat.le_of_lt hr) hfield
  have hnext := units_add (r := r + 1) hr (hfield.imp_right (Nat.le_add_right_of_le))
  rw [← hm] at hthis
  rw [← Nat.add_assoc, ← hm] at hnext
  rw [hthis, hnext, Nat.add_mul, Nat.one_mul]

theorem strictMono_units (f : Format) : StrictMono f.units := by
  refine strictMono_nat_of_lt_succ fun m => ?_
  rw [units_succ]
  exact Nat.lt_add_of_pos_right (Nat.two_pow_pos _)

/-- The values from some spacing on are multiples of it. -/
theorem exists_units_eq_mul (h : t = 0 ∨ (t + 1) * f.span ≤ m) : ∃ c, f.units m = c * 2 ^ t := by
  obtain ⟨r, hm, hr, hfield⟩ := f.exists_eq_add m
  have ht : t ≤ f.doublings m := by
    rcases h with rfl | h
    · exact Nat.zero_le _
    · have hfields : t + 1 ≤ m / f.span := (Nat.le_div_iff_mul_le f.span_pos).mpr h
      unfold doublings
      omega
  refine ⟨r * 2 ^ (f.doublings m - t), ?_⟩
  have hunits := units_add (Nat.le_of_lt hr) hfield
  rw [← hm] at hunits
  rw [hunits, Nat.mul_assoc, ← Nat.pow_add, Nat.sub_add_cancel ht]

theorem value_eq_mul {t r : Nat} (hr : r ≤ 2 * f.span) (h : t = 0 ∨ f.span ≤ r) :
    f.value (t * f.span + r) = r * 2 ^ ((t : ℤ) - f.scale) := by
  rw [value, units_add hr h, Nat.cast_mul, Nat.cast_pow, Nat.cast_ofNat, mul_div_assoc,
    zpow_sub₀ (by norm_num), zpow_natCast, zpow_natCast]

theorem strictMono_value (f : Format) : StrictMono f.value := by
  intro a b hab
  have hunits : (f.units a : ℚ) < f.units b := by exact_mod_cast f.strictMono_units hab
  exact div_lt_div_of_pos_right hunits (by positivity)

/-! ## The nearest quotient -/

/-- A quotient halfway between two natural numbers goes to the even one. -/
theorem even_nearestQuotient (hd : 0 < d)
    (h : 2 * (nearestQuotient .toEven n d * d) = 2 * n + d ∨
      2 * n = 2 * (nearestQuotient .toEven n d * d) + d) :
    nearestQuotient .toEven n d % 2 = 0 := by
  have hn := Nat.div_add_mod' n d
  have hmod := Nat.mod_lt n hd
  revert h
  simp only [nearestQuotient, reduceCtorEq, false_or]
  split
  · next hup =>
    rw [Nat.add_mul, Nat.one_mul]
    intro h
    omega
  · next hdown =>
    intro h
    omega

theorem abs_nearestQuotient_sub_le (n : Nat) (hd : 0 < d) :
    |(nearestQuotient .toEven n d : ℚ) - n / d| ≤ 1 / 2 := by
  obtain ⟨hlow, hhigh⟩ := nearestQuotient_near .toEven (n := n) hd
  generalize nearestQuotient .toEven n d = q at *
  have hd' : (0 : ℚ) < d := by exact_mod_cast hd
  have hn : (n : ℚ) / d * d = n := div_mul_cancel₀ _ hd'.ne'
  have hlow' : 2 * ((q : ℚ) * d) ≤ 2 * n + d := by exact_mod_cast hlow
  have hhigh' : 2 * (n : ℚ) ≤ 2 * (q * d) + d := by exact_mod_cast hhigh
  rw [abs_le]
  constructor <;> nlinarith

theorem even_of_abs_eq (hd : 0 < d) (h : |(nearestQuotient .toEven n d : ℚ) - n / d| = 1 / 2) :
    nearestQuotient .toEven n d % 2 = 0 := by
  have hd' : (0 : ℚ) < d := by exact_mod_cast hd
  have hn : (n : ℚ) / d * d = n := div_mul_cancel₀ _ hd'.ne'
  refine even_nearestQuotient hd ?_
  generalize nearestQuotient .toEven n d = q at *
  rcases (abs_eq (by norm_num)).mp h with h | h
  · left
    have hq : 2 * ((q : ℚ) * d) = 2 * n + d := by
      rw [eq_add_of_sub_eq h, add_mul, hn]
      ring
    exact_mod_cast hq
  · right
    have hq : 2 * (n : ℚ) = 2 * (q * d) + d := by
      rw [eq_add_of_sub_eq h, add_mul, hn]
      ring
    exact_mod_cast hq

/-- No natural number is nearer to a quotient, and if another is as near, this is the even one. -/
theorem nearestQuotient_nearest (n : Nat) (hd : 0 < d) (c : Nat) :
    |(nearestQuotient .toEven n d : ℚ) - n / d| ≤ |(c : ℚ) - n / d| ∧
      (c ≠ nearestQuotient .toEven n d →
        |(c : ℚ) - n / d| = |(nearestQuotient .toEven n d : ℚ) - n / d| →
        nearestQuotient .toEven n d % 2 = 0) := by
  have hhalf := abs_nearestQuotient_sub_le n hd
  have heven := even_of_abs_eq (n := n) hd
  generalize nearestQuotient .toEven n d = q at *
  rcases eq_or_ne c q with rfl | hne
  · exact ⟨le_rfl, fun h => absurd rfl h⟩
  -- Another natural number is one off at least, so half at least from what this is half off.
  have hapart : 1 ≤ |(c : ℚ) - q| := by
    have hint : 1 ≤ |(c : ℤ) - q| := Int.one_le_abs (by omega)
    exact_mod_cast hint
  have htriangle := abs_sub_le (c : ℚ) (n / d) q
  rw [abs_sub_comm (n / d : ℚ) q] at htriangle
  exact ⟨by linarith, fun _ htie => heven (by linarith)⟩

/-! ## The nearest stored magnitude -/

/-- The stored magnitude nearest to a quotient stands for a nearest quotient, which fills a span
unless the spacing is the least. -/
theorem exists_nearest_eq (f : Format) (n d : Nat) :
    ∃ t, f.nearest n d =
        t * f.span + nearestQuotient .toEven (n <<< f.scale) (d <<< t) ∧
      nearestQuotient .toEven (n <<< f.scale) (d <<< t) ≤ 2 * f.span ∧
      (t = 0 ∨ f.span ≤ nearestQuotient .toEven (n <<< f.scale) (d <<< t)) ∧
      (t = 0 ∨ f.span ≤ n <<< f.scale / (d <<< t)) := by
  have hfills : Nat.log2 (n <<< f.scale / d) - f.fractionBits = 0 ∨
      f.span ≤ n <<< f.scale / (d <<< (Nat.log2 (n <<< f.scale / d) - f.fractionBits)) := by
    rw [or_iff_not_imp_left]
    intro ht
    refine f.span_le_div_shiftLeft (fun hzero => ?_) (by omega)
    simp [hzero] at ht
  exact ⟨_, rfl, (nearestQuotient_le _ _ _).trans (f.div_shiftLeft_lt _ _),
    hfills.imp_right fun h => h.trans (le_nearestQuotient _ _ _), hfills⟩

/-- The distance to a value, counted in the spacing `2 ^ t`. -/
theorem abs_value_sub (f : Format) {n d t : Nat} {c : ℚ} (hm : (f.units m : ℚ) = c * 2 ^ t) :
    |f.value m - n / d| =
      |c - (n <<< f.scale : Nat) / (d <<< t : Nat)| * (2 ^ t / 2 ^ f.scale) := by
  have hdiff : f.value m - n / d =
      (c - (n <<< f.scale : Nat) / (d <<< t : Nat)) * (2 ^ t / 2 ^ f.scale) := by
    rw [value, hm, sub_mul, Nat.shiftLeft_eq, Nat.shiftLeft_eq]
    push_cast
    congr 1
    · ring
    · by_cases hd : (d : ℚ) = 0
      · simp [hd]
      · field_simp
  have hscale : (0 : ℚ) ≤ 2 ^ t / 2 ^ f.scale := by positivity
  rw [hdiff, abs_mul, abs_of_nonneg hscale]

/-- A span has an even number of magnitudes, so the quotient settles which are even. -/
theorem even_add (hf : 0 < f.fractionBits) (h : r % 2 = 0) : (t * f.span + r) % 2 = 0 := by
  have hspan : 2 ∣ f.span := f.span_eq ▸ dvd_pow_self 2 hf.ne'
  exact Nat.mod_eq_zero_of_dvd ((hspan.mul_left t).add (Nat.dvd_of_mod_eq_zero h))

/-- The least multiple of a spacing that fills a span is not above a quotient that fills one. -/
theorem value_le_of_fills (hd : 0 < d) (h : f.span ≤ n <<< f.scale / (d <<< t)) :
    f.value (t * f.span + f.span) ≤ n / d := by
  have hfirst : f.units (t * f.span + f.span) = f.span * 2 ^ t :=
    units_add (by omega) (.inr le_rfl)
  have hdt : 0 < d * 2 ^ t := Nat.mul_pos hd (Nat.two_pow_pos t)
  rw [Nat.shiftLeft_eq, Nat.shiftLeft_eq, Nat.le_div_iff_mul_le hdt] at h
  rw [value, hfirst, div_le_div_iff₀ (by positivity) (by positivity)]
  exact_mod_cast (by linarith : f.span * 2 ^ t * d ≤ n * 2 ^ f.scale)

/-- A nearest quotient in a spacing is nearest among the values that are multiples of it. -/
theorem nearest_multiple (hf : 0 < f.fractionBits) (hd : 0 < d) {q : Nat}
    (hq : q = nearestQuotient .toEven (n <<< f.scale) (d <<< t)) (hmost : q ≤ 2 * f.span)
    (hleast : t = 0 ∨ f.span ≤ q) {c : Nat} (hk : f.units k = c * 2 ^ t) :
    |f.value (t * f.span + q) - n / d| ≤ |f.value k - n / d| ∧
      (k ≠ t * f.span + q → |f.value k - n / d| = |f.value (t * f.span + q) - n / d| →
        (t * f.span + q) % 2 = 0) := by
  have hunits := units_add hmost hleast
  have hscale : (0 : ℚ) < 2 ^ t / 2 ^ f.scale := by positivity
  have hdt : 0 < d <<< t := by
    rw [Nat.shiftLeft_eq]
    exact Nat.mul_pos hd (Nat.two_pow_pos t)
  obtain ⟨hnear, htie⟩ := nearestQuotient_nearest (n <<< f.scale) hdt c
  rw [← hq] at hnear htie
  rw [f.abs_value_sub (c := q) (by exact_mod_cast hunits),
    f.abs_value_sub (c := c) (by exact_mod_cast hk)]
  refine ⟨mul_le_mul_of_nonneg_right hnear hscale.le, fun hne heq => ?_⟩
  refine even_add hf (htie ?_ (mul_right_cancel₀ hscale.ne' heq))
  rintro rfl
  exact hne (f.strictMono_units.injective (hk.trans hunits.symm))

/-- No value is nearer to a quotient than that of its nearest stored magnitude, and if another is as
near, this is the even one. -/
theorem nearest_nearest (hf : 0 < f.fractionBits) (n : Nat) (hd : 0 < d) (k : Nat) :
    |f.value (f.nearest n d) - n / d| ≤ |f.value k - n / d| ∧
      (k ≠ f.nearest n d → |f.value k - n / d| = |f.value (f.nearest n d) - n / d| →
        f.nearest n d % 2 = 0) := by
  obtain ⟨t, hnearest, hmost, hleast, hfills⟩ := f.exists_nearest_eq n d
  rw [hnearest]
  by_cases hfield : t = 0 ∨ (t + 1) * f.span ≤ k
  · obtain ⟨c, hk⟩ := exists_units_eq_mul hfield
    exact nearest_multiple hf hd rfl hmost hleast hk
  · -- The others lie below the least multiple that fills a span, which is not above the quotient.
    obtain ⟨ht, hk⟩ := not_or.mp hfield
    have hfirst : f.units (t * f.span + f.span) = f.span * 2 ^ t :=
      units_add (by omega) (.inr le_rfl)
    have hbelow : f.value k < f.value (t * f.span + f.span) :=
      f.strictMono_value (by rwa [← Nat.succ_mul, ← Nat.not_le])
    have hreached := value_le_of_fills hd (hfills.resolve_left ht)
    have hcloser : |f.value (t * f.span + f.span) - n / d| < |f.value k - n / d| := by
      rw [abs_of_nonpos (by linarith), abs_of_nonpos (by linarith)]
      linarith
    have hstrict := (nearest_multiple hf hd rfl hmost hleast hfirst).1.trans_lt hcloser
    exact ⟨hstrict.le, fun _ htie => absurd htie hstrict.ne'⟩

/-- Numbers of the value of infinity or more are rounded to infinity. -/
theorem isNearest_infinity (h : f.value f.infinity ≤ q) : f.IsNearest q f.infinity := by
  have hcloser {k : Nat} (hk : k < f.infinity) : |f.value f.infinity - q| < |f.value k - q| := by
    have hvalue := f.strictMono_value hk
    rw [abs_of_nonpos (by linarith), abs_of_nonpos (by linarith)]
    linarith
  refine ⟨Nat.le_refl _, fun k hk => ?_, fun k hk hne htie => ?_⟩
  · rcases hk.eq_or_lt with rfl | hk
    · exact le_rfl
    · exact (hcloser hk).le
  · exact absurd htie (hcloser (hk.lt_of_ne hne)).ne'

/-- Numbers of less than half the smallest positive value are rounded to zero. -/
theorem isNearest_zero (hq : 0 ≤ q) (h : q * 2 ^ (f.scale + 1) ≤ 1) : f.IsNearest q 0 := by
  refine ⟨Nat.zero_le _, fun k _ => ?_, fun k _ _ _ => rfl⟩
  rcases Nat.eq_zero_or_pos k with rfl | hk
  · exact le_rfl
  have hzero : f.value 0 = 0 := by simp [value, units, f.span_pos]
  have hvalue : 2 * q ≤ f.value k := by
    have hunits : (1 : ℚ) ≤ f.units k := by exact_mod_cast units_pos hk.ne'
    rw [value, le_div_iff₀ (by positivity)]
    rw [pow_succ] at h
    linarith
  rw [hzero, abs_of_nonpos (by linarith), abs_of_nonneg (by linarith)]
  linarith

/-- Rounding finds the nearest value. -/
theorem isNearest_rounded (hf : 0 < f.fractionBits) (n : Nat) (hd : 0 < d) :
    f.IsNearest (n / d) (f.rounded n d) := by
  have hnearest := f.nearest_nearest hf n hd
  rcases le_or_gt (f.nearest n d) f.infinity with hle | hlt
  · rw [rounded, Nat.min_eq_right hle]
    exact ⟨hle, fun k _ => (hnearest k).1, fun k _ => (hnearest k).2⟩
  · -- What is rounded to more than infinity lies above the value of infinity.
    rw [rounded, Nat.min_eq_left hlt.le]
    have hbeyond : f.value f.infinity < n / d := by
      have hvalue := f.strictMono_value hlt
      have hnear := (hnearest f.infinity).1
      by_contra hle
      rw [not_lt] at hle
      rw [abs_of_nonneg (by linarith), abs_of_nonneg (by linarith)] at hnear
      linarith
    exact isNearest_infinity hbeyond.le

theorem IsNearest.not_lt {m' : Nat} (h : f.IsNearest q m) (h' : f.IsNearest q m') : ¬ m < m' := by
  intro hlt
  have htie : |f.value m' - q| = |f.value m - q| :=
    le_antisymm (h'.near m h.le_infinity) (h.near m' h'.le_infinity)
  have heven := h.even m' h'.le_infinity hlt.ne' htie
  have heven' := h'.even m h.le_infinity hlt.ne htie.symm
  -- The two stand on either side of the number, and the next above the lower one is between them.
  have hless := f.strictMono_value hlt
  have hmiddle : f.value m' - q = -(f.value m - q) :=
    (abs_eq_abs.mp htie).resolve_left fun hsame => hless.ne' (sub_left_inj.mp hsame)
  have hleft := f.strictMono_value (Nat.lt_succ_self m)
  have hright := f.strictMono_value (show m + 1 < m' by omega)
  have hnext := h.near (m + 1) (Nat.le_trans hlt h'.le_infinity)
  rw [abs_of_nonpos (by linarith)] at hnext
  rcases le_abs.mp hnext with habove | hbelow
  · linarith
  · linarith

/-- A number has one nearest stored magnitude. -/
theorem IsNearest.unique {m' : Nat} (h : f.IsNearest q m) (h' : f.IsNearest q m') : m = m' := by
  rcases Nat.lt_trichotomy m m' with hlt | heq | hgt
  · exact absurd hlt (h.not_lt h')
  · exact heq
  · exact absurd hgt (h'.not_lt h)

/-- Rounding a decimal number finds the nearest value, if numbers of more than four hundred digits
before the point are infinite and those with as many zeros behind it vanish. -/
theorem isNearest_round (hf : 0 < f.fractionBits) (hlarge : f.value f.infinity ≤ 10 ^ 400)
    (hsmall : 2 ^ (f.scale + 1) ≤ 10 ^ 400) (x : Decimal) : f.IsNearest x.toRat (f.round x) := by
  obtain ⟨c, e⟩ := x
  have hupper : (c : ℚ) ≤ 10 ^ Digits.count c := by exact_mod_cast (Digits.lt_ten_pow_count c).le
  have hpower : (0 : ℚ) < 10 ^ e := by positivity
  unfold round Decimal.toRat
  dsimp only
  split
  · next hzero => exact isNearest_zero (by simp [hzero]) (by simp [hzero])
  split
  · next hc horder =>
    refine isNearest_infinity (hlarge.trans ?_)
    have hlower : (10 : ℚ) ^ (Digits.count c - 1) ≤ c := by exact_mod_cast Digits.ten_pow_le hc
    calc (10 : ℚ) ^ 400 = 10 ^ (400 : ℤ) := rfl
      _ ≤ 10 ^ ((Digits.count c - 1 : Nat) + e) := zpow_le_zpow_right₀ (by norm_num) (by omega)
      _ = 10 ^ (Digits.count c - 1) * 10 ^ e := by rw [zpow_add₀ (by norm_num), zpow_natCast]
      _ ≤ c * 10 ^ e := mul_le_mul_of_nonneg_right hlower hpower.le
  split
  · next hpos horder =>
    refine isNearest_zero (by positivity) ?_
    have hvanishes : (c : ℚ) * 10 ^ e ≤ (10 ^ 400)⁻¹ := by
      calc (c : ℚ) * 10 ^ e ≤ 10 ^ Digits.count c * 10 ^ e :=
            mul_le_mul_of_nonneg_right hupper hpower.le
        _ = 10 ^ (Digits.count c + e) := by rw [zpow_add₀ (by norm_num), zpow_natCast]
        _ ≤ 10 ^ (-400 : ℤ) := zpow_le_zpow_right₀ (by norm_num) (by omega)
        _ = (10 ^ 400)⁻¹ := zpow_neg 10 400
    have hsmall' : (2 : ℚ) ^ (f.scale + 1) ≤ 10 ^ 400 := by exact_mod_cast hsmall
    calc (c : ℚ) * 10 ^ e * 2 ^ (f.scale + 1) ≤ (10 ^ 400)⁻¹ * 10 ^ 400 := by gcongr
      _ = 1 := inv_mul_cancel₀ (by positivity)
  · have hquotient : (c : ℚ) * 10 ^ e =
        (Digits.withZeros c e.toNat : Nat) / (Digits.withZeros 1 (-e).toNat : Nat) := by
      have hsplit : (10 : ℚ) ^ e = 10 ^ e.toNat / 10 ^ (-e).toNat := by
        rw [← zpow_natCast, ← zpow_natCast, ← zpow_sub₀ (by norm_num), Int.toNat_sub_toNat_neg]
      rw [hsplit, Digits.withZeros, Digits.withZeros, Nat.pow_eq, Nat.pow_eq]
      push_cast
      ring
    rw [hquotient]
    exact isNearest_rounded hf _ (Nat.mul_pos Nat.one_pos (Nat.pow_pos (by decide)))

theorem two_pow_le_ten_pow {j : Nat} (h : k ≤ 3 * j) : 2 ^ k ≤ 10 ^ j := by
  calc 2 ^ k ≤ 2 ^ (3 * j) := Nat.pow_le_pow_right (by decide) h
    _ = 8 ^ j := Nat.pow_mul 2 3 j
    _ ≤ 10 ^ j := Nat.pow_le_pow_left (by decide) j

/-- The value of infinity is the power of two behind the largest exponent. -/
theorem value_infinity (hf : 0 < f.fractionBits) (he : 0 < f.exponentBits) :
    f.value f.infinity = 2 ^ 2 ^ (f.exponentBits - 1) := by
  have hpos := Nat.two_pow_pos (f.exponentBits - 1)
  have hdouble := Nat.two_pow_pred_mul_two he
  have hinfinity : f.infinity = (2 ^ f.exponentBits - 2) * f.span + f.span := by
    rw [infinity, Nat.shiftLeft_eq, Nat.one_mul, ← Nat.succ_mul]
    congr 1
    omega
  have hunits : f.units f.infinity = f.span * 2 ^ (2 ^ f.exponentBits - 2) :=
    hinfinity ▸ units_add (by omega) (.inr (Nat.le_refl _))
  have hexponent : f.fractionBits + (2 ^ f.exponentBits - 2) =
      2 ^ (f.exponentBits - 1) + f.scale := by
    rw [scale, Nat.shiftLeft_eq]
    omega
  rw [value, hunits, span_eq, ← Nat.pow_add, hexponent, Nat.pow_add, Nat.cast_mul, Nat.cast_pow,
    Nat.cast_pow, Nat.cast_ofNat, mul_div_cancel_right₀ _ (by positivity)]

/-- Double precision gives every decimal number its nearest value. -/
theorem isNearest_binary64 (x : Decimal) : binary64.IsNearest x.toRat (binary64.round x) := by
  refine isNearest_round (by decide) ?_ (two_pow_le_ten_pow (by decide)) x
  rw [value_infinity (by decide) (by decide)]
  exact_mod_cast two_pow_le_ten_pow (by decide)

/-! ## Doubles -/

/-- The magnitude of a double that is a number. -/
def unpackedValue : Float.Model.UnpackedFloat → ℚ
  | .finite _ m e _ => m * 2 ^ e
  | .zero _ | .infinity _ | .notANumber => 0

@[simp] theorem unpackedValue_zero (s : Float.Model.UnpackedFloat.Sign) :
    unpackedValue (.zero s) = 0 :=
  rfl

@[simp] theorem unpackedValue_finite (s : Float.Model.UnpackedFloat.Sign) (m : Nat) (e : ℤ)
    (hm : 0 < m) : unpackedValue (.finite s m e hm) = m * 2 ^ e :=
  rfl

theorem toNat_unpackMantissa (x : Float) :
    (@Float.Model.UnpackedFloat.unpackMantissa Float.Model.Format.binary64
      x.toBits.toBitVec).toNat = x.toBits.toNat % 2 ^ 52 := by
  simp [Float.Model.UnpackedFloat.unpackMantissa, BitVec.extractLsb, BitVec.extractLsb']

theorem toNat_unpackExponent (x : Float) :
    (@Float.Model.UnpackedFloat.unpackExponent Float.Model.Format.binary64
      x.toBits.toBitVec).toNat = x.toBits.toNat / 2 ^ 52 % 2 ^ 11 := by
  simp only [Float.Model.UnpackedFloat.unpackExponent, BitVec.extractLsb, BitVec.extractLsb',
    BitVec.cast_eq, BitVec.toNat_ofNat, UInt64.toNat_toBitVec, Nat.shiftRight_eq_div_pow]

/-- The value of a finite double is that of its stored magnitude. -/
theorem unpackedValue_eq {x : Float} (h : x.isFinite = true) :
    unpackedValue x.toModel.unpack = binary64.value (x.toBits.toNat % binary64.signBit) := by
  have hspan : binary64.span = 2 ^ 52 := by decide
  have hsign : binary64.signBit = 2 ^ 63 := by decide
  have hfields : x.toBits.toNat % binary64.signBit =
      x.toBits.toNat / 2 ^ 52 % 2 ^ 11 * binary64.span + x.toBits.toNat % 2 ^ 52 := by
    rw [hspan, hsign]
    omega
  have hmantissa := toNat_unpackMantissa x
  have hlt : x.toBits.toNat % 2 ^ 52 < binary64.span := by
    rw [hspan]
    omega
  rw [hfields]
  change unpackedValue (Float.Model.UnpackedFloat.unpack Float.Model.Format.binary64
    x.toBits.toBitVec) = _
  delta Float.Model.UnpackedFloat.unpack
  dsimp only
  rw [if_neg (unpackExponent_ne_of_isFinite h)]
  by_cases hzero : @Float.Model.UnpackedFloat.unpackExponent Float.Model.Format.binary64
      x.toBits.toBitVec = 0#_
  · have hfield := toNat_unpackExponent x
    rw [hzero] at hfield
    rw [if_pos hzero, ← hfield, BitVec.toNat_zero, value_eq_mul (by omega) (.inl rfl),
      ← hmantissa]
    by_cases hnone : @Float.Model.UnpackedFloat.unpackMantissa Float.Model.Format.binary64
        x.toBits.toBitVec = 0#_
    · rw [dif_pos hnone, unpackedValue_zero, hnone, BitVec.toNat_zero, Nat.cast_zero, zero_mul]
    · rw [dif_neg hnone, unpackedValue_finite, hzero]
      rfl
  · obtain ⟨t, ht⟩ : ∃ t, x.toBits.toNat / 2 ^ 52 % 2 ^ 11 = t + 1 := by
      refine Nat.exists_eq_succ_of_ne_zero fun hfield => hzero (BitVec.eq_of_toNat_eq ?_)
      rw [toNat_unpackExponent, hfield]
      rfl
    rw [if_neg hzero, ht, Nat.succ_mul, Nat.add_assoc,
      value_eq_mul (by omega) (.inr (Nat.le_add_right _ _)),
      unpackedValue_finite, toNat_unpackExponent, ht, BitVec.toNat_append,
      ← Nat.shiftLeft_add_eq_or_of_lt (BitVec.isLt _), hmantissa, hspan]
    congr 2
    change ((t + 1 : Nat) : ℤ) - (1023 + 52) = t - 1074
    omega

end Format

end Flowscript
