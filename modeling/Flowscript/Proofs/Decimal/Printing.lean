import Mathlib.Data.List.DropRight
import Flowscript.Decimal.Layout

/-!
# The texts of numbers

An integer is written as it is read. A finite double is written with digits on both sides of a
point, or as digits with a power of ten behind them; a leading zero stands alone in front of the
point. The main statement is `written_double`.
-/

namespace Flowscript

namespace Digits

variable {n : Nat} {c : Char} {cs : List Char}

theorem toNat_of_isDigit (h : c.isDigit = true) : 48 ≤ c.toNat ∧ c.toNat ≤ 57 := by
  obtain ⟨hfirst, hlast⟩ := Bool.and_eq_true_iff.mp h
  exact ⟨of_decide_eq_true hfirst, of_decide_eq_true hlast⟩

theorem isDigit_of_mem_ofNat (h : c ∈ ofNat n) : c.isDigit = true :=
  Nat.isDigit_of_mem_toDigits (by decide) (by decide) h

theorem isRun_iff : isRun cs = true ↔ cs ≠ [] ∧ ∀ c ∈ cs, c.isDigit = true := by
  simp [isRun]

theorem isRun_ofNat (n : Nat) : isRun (ofNat n) = true :=
  isRun_iff.mpr ⟨Nat.toDigits_ne_nil, fun _ => isDigit_of_mem_ofNat⟩

theorem head?_ofNat (h : n ≠ 0) : (ofNat n).head? ≠ some '0' := by
  induction n using Nat.strongRecOn with
  | ind n ih =>
    by_cases hn : n < 10
    · simp [ofNat, Nat.toDigits_of_lt_base hn, Nat.digitChar_eq_zero, h]
    · have hsplit := Nat.toDigits_of_base_le (b := 10) (n := n) (by decide) (by omega)
      rw [ofNat, hsplit, List.head?_append_of_ne_nil _ Nat.toDigits_ne_nil]
      exact ih (n / 10) (by omega) (by omega)

theorem of_mem_ofInt {i : Int} (h : c ∈ ofInt i) : c = '-' ∨ c.isDigit = true := by
  unfold ofInt at h
  split at h
  · exact (List.mem_cons.mp h).imp_right isDigit_of_mem_ofNat
  · exact .inr (isDigit_of_mem_ofNat h)

theorem ofInt_ne_nil (i : Int) : ofInt i ≠ [] := by
  unfold ofInt
  split
  · simp
  · exact (isRun_iff.mp (isRun_ofNat _)).1

theorem signed_of_isRun (h : isRun cs = true) : signed cs = (false, cs) := by
  unfold signed
  split
  · cases h
  · cases h
  · rfl

theorem int?_ofInt (i : Int) : int? (ofInt i) = some i := by
  have hrun := isRun_ofNat i.natAbs
  have hvalue := value_ofNat i.natAbs
  unfold ofInt
  split
  · simp only [int?, signed, hrun, if_true, hvalue, Option.some.injEq]
    omega
  · simp only [int?, signed_of_isRun hrun, hrun, if_true, hvalue, Option.some.injEq,
      Bool.false_eq_true, if_false]
    omega

/-- What is read as an integer of 64 bits is an integer in that range. -/
theorem int64?_eq_some_iff {i : Int64} : int64? cs = some i ↔ int? cs = some i.toInt := by
  constructor
  · intro h
    obtain ⟨j, hj, h⟩ := Option.bind_eq_some_iff.mp h
    obtain ⟨hrange, hi⟩ := Option.ite_none_right_eq_some.mp h
    rw [hj, ← Option.some.inj hi,
      Int64.toInt_ofInt_of_le hrange.1 (Int.lt_add_one_of_le hrange.2)]
  · intro h
    have hrange := And.intro i.minValue_le_toInt i.toInt_le
    simp only [int64?, h, Option.bind_some, hrange, and_self, if_true, Int64.ofInt_toInt]

theorem int64?_ofInt (i : Int64) : int64? (ofInt i.toInt) = some i :=
  int64?_eq_some_iff.mpr (int?_ofInt i.toInt)

/-- Digits without a leading zero, unless that is the only one. -/
structure IsWhole (cs : List Char) : Prop where
  run : isRun cs = true
  zero : cs = ['0'] ∨ cs.head? ≠ some '0'

theorem isWhole_ofNat (n : Nat) : IsWhole (ofNat n) where
  run := isRun_ofNat n
  zero := by
    by_cases h : n = 0
    · exact .inl (h ▸ rfl)
    · exact .inr (head?_ofNat h)

end Digits

namespace Format

variable {f : Format} {m : Nat}

theorem span_pos (f : Format) : 0 < f.span := by
  rw [span, Nat.shiftLeft_eq, Nat.one_mul]
  exact Nat.two_pow_pos _

theorem units_pos (h : m ≠ 0) : 0 < f.units m := by
  have hspan := f.span_pos
  unfold units
  split
  · omega
  · rw [Nat.shiftLeft_eq]
    exact Nat.mul_pos (by omega) (Nat.two_pow_pos _)

theorem coefficient_pos_of_round {x : Decimal} (h : f.round x = m) (hm : m ≠ 0) :
    0 < x.coefficient := by
  refine Nat.pos_of_ne_zero fun hzero => hm ?_
  simp [← h, round, hzero]

theorem coefficient_pos_of_withDigits? {tie : Tie} {n d digits : Nat} {x : Decimal}
    (h : f.withDigits? tie m n d digits = some x) (hm : m ≠ 0) : 0 < x.coefficient := by
  unfold withDigits? at h
  dsimp only at h
  split at h
  · next hbelow habove =>
    cases h
    split
    · exact coefficient_pos_of_round (of_decide_eq_true hbelow) hm
    · exact coefficient_pos_of_round (of_decide_eq_true habove) hm
  · next hbelow _ =>
    cases h
    exact coefficient_pos_of_round (of_decide_eq_true hbelow) hm
  · next habove =>
    cases h
    exact coefficient_pos_of_round (of_decide_eq_true habove) hm
  · cases h

/-- The decimal of a positive magnitude has digits other than zeros. -/
theorem coefficient_shortest_pos (tie : Tie) (hm : m ≠ 0) :
    0 < (f.shortest tie m).coefficient := by
  unfold shortest
  cases hfound : List.findSome? _ (List.range f.decimalDigits) with
  | none => exact Nat.mul_pos (units_pos hm) (Nat.pow_pos (by decide))
  | some x =>
    obtain ⟨k, -, hk⟩ := List.exists_of_findSome?_eq_some hfound
    exact coefficient_pos_of_withDigits? hk hm

end Format

namespace Layout

variable {x : Decimal} {digits : List Char} {point : Int} {c : Char}

theorem isDigit_of_mem_significant (h : c ∈ significant x) : c.isDigit = true := by
  rw [significant, List.mem_reverse] at h
  have hdigits := (List.dropWhile_sublist _).subset h
  exact Digits.isDigit_of_mem_ofNat (List.mem_reverse.mp hdigits)

theorem significant_eq_rdropWhile (x : Decimal) :
    significant x = (Digits.ofNat x.coefficient).rdropWhile (· = '0') := rfl

/-- The digits of a positive number start with one that is no zero. -/
theorem exists_significant (h : 0 < x.coefficient) :
    ∃ d ds, significant x = d :: ds ∧ d ≠ '0' := by
  obtain ⟨d, more, hdigits⟩ :=
    List.exists_cons_of_ne_nil (Digits.isRun_iff.mp (Digits.isRun_ofNat x.coefficient)).1
  have hd : d ≠ '0' := by simpa [hdigits] using Digits.head?_ofNat (Nat.ne_of_gt h)
  have hprefix : significant x <+: d :: more := by
    rw [significant_eq_rdropWhile, hdigits]
    exact List.rdropWhile_prefix _ _
  cases hsignificant : significant x with
  | nil =>
    rw [significant_eq_rdropWhile, List.rdropWhile_eq_nil_iff, hdigits] at hsignificant
    exact absurd (of_decide_eq_true (hsignificant d List.mem_cons_self)) hd
  | cons first ds =>
    rw [hsignificant] at hprefix
    obtain ⟨rfl, -⟩ := List.cons_prefix_cons.mp hprefix
    exact ⟨first, ds, rfl, hd⟩

theorem isDigit_of_mem_place (hdigits : ∀ c ∈ digits, c.isDigit = true) (point : Int)
    (h : c ∈ (place digits point).1 ∨ c ∈ (place digits point).2) : c.isDigit = true := by
  unfold place at h
  split at h
  · rcases h with h | h
    · rcases List.mem_append.mp h with h | h
      · exact hdigits c (List.mem_of_mem_take h)
      · obtain ⟨-, rfl⟩ := List.mem_replicate.mp h
        rfl
    · exact hdigits c (List.mem_of_mem_drop h)
  · rcases h with h | h
    · obtain rfl := List.mem_singleton.mp h
      rfl
    · rcases List.mem_append.mp h with h | h
      · obtain ⟨-, rfl⟩ := List.mem_replicate.mp h
        rfl
      · exact hdigits c h

theorem isWhole_place {d : Char} {ds : List Char} (hdigits : ∀ c ∈ d :: ds, c.isDigit = true)
    (hd : d ≠ '0') (point : Int) : Digits.IsWhole (place (d :: ds) point).1 := by
  have hall : ∀ c ∈ (place (d :: ds) point).1, c.isDigit = true := fun c hc =>
    isDigit_of_mem_place hdigits point (.inl hc)
  by_cases hpoint : 0 < point
  · obtain ⟨k, hk⟩ : ∃ k, point.toNat = k + 1 := ⟨point.toNat - 1, by omega⟩
    have hwhole : ∃ more, (place (d :: ds) point).1 = d :: more := by
      simp [place, hpoint, hk]
    obtain ⟨more, hmore⟩ := hwhole
    rw [hmore] at hall ⊢
    exact ⟨Digits.isRun_iff.mpr ⟨by simp, hall⟩, .inr (by simpa using hd)⟩
  · have hwhole : (place (d :: ds) point).1 = ['0'] := by simp [place, hpoint]
    rw [hwhole]
    exact ⟨rfl, .inl rfl⟩

/-- The texts of numbers with a point, or with a power of ten behind one digit or a point. -/
inductive Written : List Char → Prop where
  | point {whole fraction : List Char} (hwhole : Digits.IsWhole whole)
      (hfraction : Digits.isRun fraction = true) : Written (whole ++ '.' :: fraction)
  | power {d : Char} {fraction power : List Char} (hd : d.isDigit = true)
      (hfraction : fraction = [] ∨ ∃ ds, Digits.isRun ds = true ∧ fraction = '.' :: ds)
      (hpower : Digits.isRun (Digits.signed power).2 = true) :
      Written (d :: (fraction ++ 'e' :: power))

theorem written_inPlaceText {d : Char} {ds : List Char}
    (hdigits : ∀ c ∈ d :: ds, c.isDigit = true) (hd : d ≠ '0') (hpoint : point ≤ 16) :
    Written (inPlaceText (d :: ds) point) := by
  have hwhole := isWhole_place hdigits hd point
  have hfraction := fun c (hc : c ∈ (place (d :: ds) point).2) =>
    isDigit_of_mem_place hdigits point (.inr hc)
  unfold inPlaceText
  generalize place (d :: ds) point = parts at hwhole hfraction
  obtain ⟨whole, fraction⟩ := parts
  cases fraction with
  | nil =>
    simp only [hpoint, if_true]
    exact .point hwhole rfl
  | cons c cs => exact .point hwhole (Digits.isRun_iff.mpr ⟨by simp, hfraction⟩)

theorem written_powerText (layout : Layout) {d : Char} {ds : List Char}
    (hdigits : ∀ c ∈ d :: ds, c.isDigit = true) (power : Int) :
    Written (layout.powerText (d :: ds) power) := by
  obtain ⟨hd, hds⟩ := List.forall_mem_cons.mp hdigits
  have hrun := Digits.isRun_ofNat power.natAbs
  have hpower : Digits.isRun (Digits.signed
      ((if layout.plusSign && 0 ≤ power then ['+'] else []) ++ Digits.ofInt power)).2 = true := by
    by_cases hnegative : power < 0
    · simpa [Digits.ofInt, hnegative, Int.not_le.mpr hnegative, Digits.signed] using hrun
    · cases layout.plusSign with
      | true =>
        simpa [Digits.ofInt, hnegative, Int.not_lt.mp hnegative, Digits.signed] using hrun
      | false => simpa [Digits.ofInt, hnegative, Digits.signed_of_isRun hrun] using hrun
  cases ds with
  | nil => exact Written.power hd (.inl (Eq.refl [])) hpower
  | cons second more =>
    have hfraction : Digits.isRun (second :: more) = true := Digits.isRun_iff.mpr ⟨by simp, hds⟩
    simpa [powerText] using Written.power hd (.inr ⟨_, hfraction, rfl⟩) hpower

/-- Where digits stand in place below `10 ^ 16` only, every positive number is written with a point
or a power of ten. -/
theorem written_decimal {layout : Layout} {least greatest : Int}
    (hlayout : layout.inPlace = some (least, greatest)) (hgreatest : greatest ≤ 15)
    (hx : 0 < x.coefficient) : Written (layout.decimal x) := by
  obtain ⟨d, ds, hsignificant, hd⟩ := exists_significant hx
  have hdigits : ∀ c ∈ d :: ds, c.isDigit = true := fun c hc =>
    isDigit_of_mem_significant (hsignificant ▸ hc)
  simp only [decimal, hlayout, hsignificant, Bool.and_eq_true, decide_eq_true_eq]
  split
  · exact written_inPlaceText hdigits hd (by omega)
  · exact written_powerText layout hdigits _

theorem written_magnitude {layout : Layout} {least greatest : Int}
    (hlayout : layout.inPlace = some (least, greatest)) (hgreatest : greatest ≤ 15) {f : Format}
    {m : Nat} (hm : m < f.infinity) (negative : Bool) :
    ∃ body, Written body ∧
      layout.magnitude f negative m = if negative then '-' :: body else body := by
  simp only [magnitude, Nat.not_lt.mpr (Nat.le_of_lt hm), Nat.ne_of_lt hm, if_false]
  refine ⟨_, ?_, rfl⟩
  split
  · have hzero : Written (['0'] ++ '.' :: ['0']) := .point ⟨rfl, .inl rfl⟩ rfl
    exact hzero
  · next hzero =>
    exact written_decimal hlayout hgreatest (Format.coefficient_shortest_pos _ hzero)

end Layout

/-- The exponent field of a finite double is not the greatest one. -/
theorem unpackExponent_ne_of_isFinite {x : Float} (h : x.isFinite = true) :
    @Float.Model.UnpackedFloat.unpackExponent Float.Model.Format.binary64 x.toBits.toBitVec ≠
      -1#_ := by
  intro hexponent
  have hunpack : (Float.Model.UnpackedFloat.unpack Float.Model.Format.binary64
      x.toBits.toBitVec).isFinite = true := h
  delta Float.Model.UnpackedFloat.unpack at hunpack
  rw [if_pos hexponent] at hunpack
  split at hunpack <;> cases hunpack

theorem mod_signBit_lt_infinity {x : Float} (h : x.isFinite = true) :
    x.toBits.toNat % Format.binary64.signBit < Format.binary64.infinity := by
  have hsign : Format.binary64.signBit = 2 ^ 63 := by decide
  have hinfinity : Format.binary64.infinity = 2047 * 2 ^ 52 := by decide
  rw [hsign, hinfinity]
  by_contra hge
  refine unpackExponent_ne_of_isFinite h (BitVec.eq_of_toNat_eq ?_)
  simp only [Float.Model.UnpackedFloat.unpackExponent, BitVec.extractLsb, BitVec.extractLsb',
    BitVec.cast_eq, BitVec.toNat_ofNat, UInt64.toNat_toBitVec, Nat.shiftRight_eq_div_pow,
    BitVec.reduceNeg]
  omega

/-- A finite double is written with a point or a power of ten. -/
theorem Layout.written_double (layout : Layout) {least greatest : Int}
    (hlayout : layout.inPlace = some (least, greatest)) (hgreatest : greatest ≤ 15) {x : Float}
    (hx : x.isFinite = true) :
    ∃ body, Written body ∧ (layout.double x = body ∨ layout.double x = '-' :: body) := by
  obtain ⟨body, hbody, htext⟩ := written_magnitude hlayout hgreatest
    (mod_signBit_lt_infinity hx) (Format.binary64.signBit ≤ x.toBits.toNat)
  refine ⟨body, hbody, ?_⟩
  unfold double
  dsimp only
  rw [htext]
  split
  · exact .inr rfl
  · exact .inl rfl

end Flowscript
