import Flowscript.Proofs.Condition.Parsing
import Flowscript.Proofs.Condition.Substitution
import Flowscript.Proofs.Decimal.Integers

/-!
# Comparing integers

Equality looks at integers as they are, but an order is asked of the doubles that they are taken
for. So a comparison of two integers holds of what it sees of them, and differs from their own order
where two integers have the same nearest double. The main statement is `evaluate_comparing`.
-/

namespace Flowscript.Condition

/-- A comparison of two integers, as it is written. -/
def comparing (op : Comparison) (a b : Int64) : List Char :=
  Digits.ofInt a.toInt ++ ' ' :: (op.text ++ ' ' :: Digits.ofInt b.toInt)

namespace Comparison

/-- Whether two integers compare. -/
def holds (op : Comparison) (a b : Int) : Bool :=
  match op with
  | eq => a = b
  | ne => a ≠ b
  | lt => a < b
  | gt => b < a
  | le => a ≤ b
  | ge => b ≤ a

/-- What a comparison sees of an integer. -/
def sees (op : Comparison) (i : Int) : Int :=
  match op with
  | eq | ne => i
  | lt | gt | le | ge => Double.nearest i

/-- Two integers with one nearest double, in the order that a comparison misses. -/
def Misses (op : Comparison) (a b : Int) : Prop :=
  Double.nearest a = Double.nearest b ∧
    match op with
    | eq | ne => False
    | lt | ge => a < b
    | gt | le => b < a

/-- What is seen is in the order of what is there, but may be the same. -/
theorem holds_sees_iff (op : Comparison) (a b : Int) :
    op.holds (op.sees a) (op.sees b) = op.holds a b ↔ ¬ op.Misses a b := by
  have hle : a ≤ b → Double.nearest a ≤ Double.nearest b := Double.nearest_mono
  have hge : b ≤ a → Double.nearest b ≤ Double.nearest a := Double.nearest_mono
  cases op with
  | eq | ne =>
    refine decide_eq_decide.trans ?_
    simp [sees, Misses]
  | lt | gt | le | ge =>
    refine decide_eq_decide.trans ?_
    simp only [sees, Misses]
    omega

/-- Integers of at most fifty-three binary digits are seen as they are. -/
theorem sees_of_natAbs_lt (op : Comparison) {i : Int} (h : i.natAbs < 2 ^ 53) : op.sees i = i := by
  cases op <;> simp only [sees, Double.nearest, Double.magnitude_of_lt h, Int.sign_mul_natAbs]

end Comparison

theorem log2_natAbs_toInt_lt (i : Int64) : Nat.log2 i.toInt.natAbs < 1023 := by
  have hleast := i.minValue_le_toInt
  have hmost := i.toInt_le
  by_cases hzero : i.toInt.natAbs = 0
  · rw [hzero]
    decide
  · have hlog : Nat.log2 i.toInt.natAbs < 64 := by
      refine (Nat.log2_lt hzero).mpr ?_
      simp only [Int64.toInt_minValue, Int64.toInt_maxValue] at hleast hmost
      omega
    omega

/-- Integer literals compare as what is seen of them. -/
theorem compares_int (op : Comparison) (a b : Int64) :
    Literal.compares op (.int a) (.int b) = .ok (op.holds (op.sees a.toInt) (op.sees b.toInt)) := by
  have ha := Double.stores_ofInt (log2_natAbs_toInt_lt a)
  have hb := Double.stores_ofInt (log2_natAbs_toInt_lt b)
  have heq : (a == b) = decide (a.toInt = b.toInt) := by
    rw [beq_eq_decide, decide_eq_decide]
    exact Int64.toInt_inj.symm
  cases op with
  | eq => exact congrArg Except.ok heq
  | ne => exact congrArg Except.ok ((congrArg (!·) heq).trans (decide_not ..).symm)
  | lt => exact congrArg Except.ok (decide_eq_decide.mpr (ha.lt_iff hb))
  | gt => exact congrArg Except.ok (decide_eq_decide.mpr (hb.lt_iff ha))
  | le => exact congrArg Except.ok (decide_eq_decide.mpr (ha.le_iff hb))
  | ge => exact congrArg Except.ok (decide_eq_decide.mpr (hb.le_iff ha))

theorem tokens_comparing (op : Comparison) (a b : Int64) :
    tokens (comparing op a b) = .ok [.literal (.int a), .compare op, .literal (.int b)] := by
  have hblank : Text.isBlank ' ' = true := rfl
  have hb := tokensOf_of_spells (Spells.integer (integer_ofInt b)) Boundary.done
  rw [List.append_nil] at hb
  rw [tokens, comparing, tokensOf_of_spells (.integer (integer_ofInt a)) (.space _), tokensOf,
    if_pos hblank, tokensOf_of_spells (.compare op) (.space _), tokensOf, if_pos hblank, hb,
    tokensOf]
  rfl

theorem parse_comparing (op : Comparison) (l r : Literal) :
    parse [.literal l, .compare op, .literal r] = .ok (.compare (.literal l) [(op, .literal r)]) :=
  parse_tokens (.last (.last (.chain (.more (.literal l) op (.last (.literal r))))))
    (Nat.zero_le 64)

theorem evaluate_comparing_eq (op : Comparison) (a b : Int64) :
    evaluate (comparing op a b) = .ok (op.holds (op.sees a.toInt) (op.sees b.toInt)) := by
  simp only [evaluate, tokens_comparing, parse_comparing, Expr.eval, Expr.evalChain, compares_int]
  cases op.holds (op.sees a.toInt) (op.sees b.toInt) <;> rfl

/-- Integers of at most fifty-three binary digits are compared as they are. -/
theorem evaluate_comparing_of_natAbs_lt (op : Comparison) {a b : Int64}
    (ha : a.toInt.natAbs < 2 ^ 53) (hb : b.toInt.natAbs < 2 ^ 53) :
    evaluate (comparing op a b) = .ok (op.holds a.toInt b.toInt) := by
  rw [evaluate_comparing_eq, op.sees_of_natAbs_lt ha, op.sees_of_natAbs_lt hb]

/-- A comparison of two integers is true of what it sees of them. That is the truth about the
integers themselves except where it asks for the order of two of them with one nearest double: so
`<=` is always the negation of `>`, but of two such integers none is seen to be less. -/
theorem evaluate_comparing (a b : Int64) :
    (∀ op : Comparison,
      evaluate (comparing op a b) = .ok (op.holds (op.sees a.toInt) (op.sees b.toInt))) ∧
    (∀ op : Comparison, evaluate (comparing op a b) = .ok (op.holds a.toInt b.toInt) ↔
      ¬ op.Misses a.toInt b.toInt) ∧
    evaluate (comparing .le a b) = (evaluate (comparing .gt a b)).map (!·) := by
  refine ⟨fun op => evaluate_comparing_eq op a b, fun op => ?_, ?_⟩
  · rw [evaluate_comparing_eq, Except.ok.injEq, op.holds_sees_iff]
  · rw [evaluate_comparing_eq, evaluate_comparing_eq]
    exact congrArg Except.ok ((decide_eq_decide.mpr Int.not_lt.symm).trans (decide_not ..))

/-- The first two integers that doubles do not tell apart: neither is seen to be less, although they
are seen to differ. -/
theorem evaluate_adjacent :
    evaluate "9007199254740993 > 9007199254740992".toList = .ok false ∧
      evaluate "9007199254740993 < 9007199254740992".toList = .ok false ∧
      evaluate "9007199254740993 == 9007199254740992".toList = .ok false ∧
      evaluate "9007199254740993 <= 9007199254740992".toList = .ok true := by
  have hevaluate (op : Comparison) := evaluate_comparing_eq op 9007199254740993 9007199254740992
  exact ⟨hevaluate .gt, hevaluate .lt, hevaluate .eq, hevaluate .le⟩

end Flowscript.Condition
