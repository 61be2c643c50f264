import Flowscript.Condition.Expr

/-!
# Grouping in conditions

A connective looks at its operands from left to right, up to the first that decides it or has no
value, and a comparison chain at its neighbouring pairs in the same way. So a connective inside one
of its own kind stands for its operands, a negation may stand before a connective or before each of
its operands, and a chain has the literal, or the fault, of the conjunction of its pairs. The main
statements are `eval_grouped` and `Regrouped.eval_eq`.
-/

namespace Flowscript.Condition

namespace Expr

/-- Whether a connective that looks for an operand of the truth `decisive` goes on behind `e`. -/
def Passes (decisive : Bool) (e : Expr) : Prop :=
  ∃ l, e.eval = .ok l ∧ l.truthy = !decisive

/-- The comparisons of the neighbouring operands of a chain. -/
def neighbours (first : Expr) : List (Comparison × Expr) → List Expr
  | [] => []
  | (op, e) :: more => .compare first [(op, e)] :: neighbours e more

/-- The operand that a chain ends with. -/
def lastOperand (first : Expr) : List (Comparison × Expr) → Expr
  | [] => first
  | (_, e) :: more => lastOperand e more

variable {decisive : Bool} {last other : Literal} {e e' : Expr} {xs ys zs : List Expr}

theorem truthy_bool (b : Bool) : (Literal.bool b).truthy = b := rfl

theorem eval_not (e : Expr) : (not e).eval = e.eval.map fun l => .bool !l.truthy := by
  rw [eval]
  cases e.eval <;> rfl

theorem eval_and (terms : List Expr) : (and terms).eval = evalUntil false (.bool true) terms := by
  rw [eval]

theorem eval_or (terms : List Expr) : (or terms).eval = evalUntil true (.bool false) terms := by
  rw [eval]

theorem evalUntil_cons (decisive : Bool) (last : Literal) (e : Expr) (more : List Expr) :
    evalUntil decisive last (e :: more) =
      e.eval.bind fun l => if l.truthy = decisive then .ok l else evalUntil decisive l more := by
  rw [evalUntil]
  cases e.eval <;> rfl

theorem eval_compare_eq_bind (first : Expr) (rest : List (Comparison × Expr)) :
    (compare first rest).eval = first.eval.bind fun left => evalChain left rest := by
  rw [eval]
  cases first.eval <;> rfl

theorem evalChain_cons (left : Literal) (op : Comparison) (e : Expr)
    (more : List (Comparison × Expr)) :
    evalChain left ((op, e) :: more) = e.eval.bind fun right =>
      (left.compares op right).bind fun holds =>
        if holds then evalChain right more else .ok (.bool false) := by
  rw [evalChain]
  cases e.eval with
  | error f => rfl
  | ok right =>
    cases h : left.compares op right with
    | error f => simp [h, Except.bind]
    | ok holds => cases holds <;> simp [h, Except.bind]

/-! ## Connectives -/

/-- Operands are looked at part by part: the second part only if the first does not decide. -/
theorem evalUntil_append (hlast : last.truthy = !decisive) (xs ys : List Expr) :
    evalUntil decisive last (xs ++ ys) = (evalUntil decisive last xs).bind fun l =>
      if l.truthy = decisive then .ok l else evalUntil decisive l ys := by
  induction xs generalizing last with
  | nil => simp [evalUntil, Except.bind, hlast]
  | cons e xs ih =>
    rw [List.cons_append, evalUntil_cons, evalUntil_cons]
    cases e.eval with
    | error f => rfl
    | ok l =>
      by_cases hl : l.truthy = decisive
      · simp [Except.bind, hl]
      · simpa [Except.bind, hl] using ih (Bool.eq_not_of_ne hl)

/-- What comes before the first operand matters only where there is none. -/
theorem evalUntil_of_ne_nil (hxs : xs ≠ []) (last other : Literal) :
    evalUntil decisive last xs = evalUntil decisive other xs := by
  cases xs with
  | nil => exact absurd rfl hxs
  | cons e xs => rw [evalUntil, evalUntil]

theorem evalUntil_append_congr (hlast : last.truthy = !decisive)
    (h : ∀ l : Literal, l.truthy = !decisive → evalUntil decisive l ys = evalUntil decisive l zs) :
    evalUntil decisive last (xs ++ ys) = evalUntil decisive last (xs ++ zs) := by
  rw [evalUntil_append hlast, evalUntil_append hlast]
  cases evalUntil decisive last xs with
  | error f => rfl
  | ok l =>
    by_cases hl : l.truthy = decisive
    · simp [Except.bind, hl]
    · simpa [Except.bind, hl] using h l (Bool.eq_not_of_ne hl)

/-- An operand that is a connective of the same kind stands for its own operands. -/
theorem evalUntil_nested (hlast : last.truthy = !decisive) (hys : ys ≠ [])
    (he : e.eval = evalUntil decisive other ys) :
    evalUntil decisive last (xs ++ [e] ++ zs) = evalUntil decisive last (xs ++ ys ++ zs) := by
  rw [List.append_assoc, List.append_assoc]
  refine evalUntil_append_congr hlast fun l hl => ?_
  rw [List.singleton_append, evalUntil_cons, he, evalUntil_append hl,
    evalUntil_of_ne_nil hys other l]

/-- The first operand behind which a connective does not go on is what it evaluates to. -/
theorem evalUntil_of_not_passes (hxs : ∀ x ∈ xs, Passes decisive x) (he : ¬ Passes decisive e) :
    evalUntil decisive last (xs ++ e :: zs) = e.eval := by
  induction xs generalizing last with
  | nil =>
    rw [List.nil_append, evalUntil_cons]
    cases heval : e.eval with
    | error f => rfl
    | ok l =>
      have hl : l.truthy = decisive :=
        Decidable.byContradiction fun hl => he ⟨l, heval, Bool.eq_not_of_ne hl⟩
      exact if_pos hl
  | cons x xs ih =>
    obtain ⟨⟨l, heval, hl⟩, hxs⟩ := List.forall_mem_cons.mp hxs
    rw [List.cons_append, evalUntil_cons, heval]
    exact (if_neg (by simp [hl])).trans (ih hxs)

/-- Negating the operands of a connective turns it into the other one. -/
theorem evalUntil_map_not (hother : other.truthy = !last.truthy) (terms : List Expr) :
    (evalUntil (!decisive) other (terms.map not)).map (fun l => Literal.bool l.truthy) =
      (evalUntil decisive last terms).map fun l => Literal.bool !l.truthy := by
  induction terms generalizing last other with
  | nil => exact congrArg (Except.ok <| Literal.bool ·) hother
  | cons e terms ih =>
    rw [List.map_cons, evalUntil_cons, evalUntil_cons, eval_not]
    cases e.eval with
    | error f => rfl
    | ok l =>
      by_cases hl : l.truthy = decisive
      · simp [Except.map, Except.bind, truthy_bool, hl]
      · simpa [Except.map, Except.bind, truthy_bool, hl] using ih (truthy_bool !l.truthy)

/-! ## Comparison chains -/

/-- A chain behind its first operand is the conjunction of its pairs. -/
theorem evalChain_eq_evalUntil {first : Expr} {left : Literal} (hfirst : first.eval = .ok left)
    (rest : List (Comparison × Expr)) :
    evalChain left rest = evalUntil false (.bool true) (neighbours first rest) := by
  induction rest generalizing first left with
  | nil => rw [neighbours, evalChain, evalUntil]
  | cons part more ih =>
    obtain ⟨op, e⟩ := part
    rw [neighbours, evalUntil_cons, eval_compare_eq_bind, hfirst, Except.bind, evalChain_cons,
      evalChain_cons]
    cases heval : e.eval with
    | error f => rfl
    | ok right =>
      simp only [Except.bind]
      cases left.compares op right with
      | error f => rfl
      | ok holds =>
        cases holds with
        | false => rfl
        | true => exact ih heval

theorem neighbours_append (first : Expr) (before after : List (Comparison × Expr)) :
    neighbours first (before ++ after) =
      neighbours first before ++ neighbours (lastOperand first before) after := by
  induction before generalizing first with
  | nil => rfl
  | cons part before ih =>
    obtain ⟨op, e⟩ := part
    simp [neighbours, lastOperand, ih]

/-- A chain is the conjunction of its pairs, also in what it has no value for. -/
theorem eval_compare {rest : List (Comparison × Expr)} (hrest : rest ≠ []) (first : Expr) :
    (compare first rest).eval = (and (neighbours first rest)).eval := by
  rw [eval_and, eval_compare_eq_bind]
  cases heval : first.eval with
  | ok left => exact evalChain_eq_evalUntil heval rest
  | error f =>
    cases rest with
    | nil => exact absurd rfl hrest
    | cons part more =>
      obtain ⟨op, e⟩ := part
      rw [neighbours, evalUntil_cons, eval_compare_eq_bind, heval]
      rfl

/-- Behind the first pair that does not compare, or has no order, a chain looks at no operand. -/
theorem eval_compare_of_not_passes {first : Expr} {before after : List (Comparison × Expr)}
    {op : Comparison} (hbefore : ∀ pair ∈ neighbours first before, Passes false pair)
    (hpair : ¬ Passes false (compare (lastOperand first before) [(op, e)])) :
    (compare first (before ++ (op, e) :: after)).eval =
      (compare (lastOperand first before) [(op, e)]).eval := by
  rw [eval_compare (by simp), eval_and, neighbours_append, neighbours]
  exact evalUntil_of_not_passes hbefore hpair

/-! ## The laws of grouping -/

theorem eval_and_nested (hys : ys ≠ []) (xs zs : List Expr) :
    (and (xs ++ [and ys] ++ zs)).eval = (and (xs ++ ys ++ zs)).eval := by
  rw [eval_and, eval_and]
  exact evalUntil_nested rfl hys (eval_and ys)

theorem eval_or_nested (hys : ys ≠ []) (xs zs : List Expr) :
    (or (xs ++ [or ys] ++ zs)).eval = (or (xs ++ ys ++ zs)).eval := by
  rw [eval_or, eval_or]
  exact evalUntil_nested rfl hys (eval_or ys)

theorem eval_not_and (terms : List Expr) :
    (not (and terms)).eval = (or (terms.map not)).eval.map fun l => .bool l.truthy := by
  rw [eval_not, eval_and, eval_or]
  exact (evalUntil_map_not rfl terms).symm

theorem eval_not_or (terms : List Expr) :
    (not (or terms)).eval = (and (terms.map not)).eval.map fun l => .bool l.truthy := by
  rw [eval_not, eval_and, eval_or]
  exact (evalUntil_map_not rfl terms).symm

/-- Grouping does not change conditions: neither their literals nor their faults. A connective comes
to the first operand behind which it does not go on, and a chain to the first such pair, whatever
stands behind that. -/
theorem eval_grouped :
    (∀ xs ys zs : List Expr, ys ≠ [] →
      (and (xs ++ [and ys] ++ zs)).eval = (and (xs ++ ys ++ zs)).eval ∧
      (or (xs ++ [or ys] ++ zs)).eval = (or (xs ++ ys ++ zs)).eval) ∧
    (∀ terms : List Expr,
      (not (and terms)).eval = (or (terms.map not)).eval.map (fun l => .bool l.truthy) ∧
      (not (or terms)).eval = (and (terms.map not)).eval.map (fun l => .bool l.truthy)) ∧
    (∀ first rest, rest ≠ [] → (compare first rest).eval = (and (neighbours first rest)).eval) ∧
    (∀ xs e zs, (∀ x ∈ xs, Passes false x) → ¬ Passes false e →
      (and (xs ++ e :: zs)).eval = e.eval) ∧
    (∀ xs e zs, (∀ x ∈ xs, Passes true x) → ¬ Passes true e →
      (or (xs ++ e :: zs)).eval = e.eval) ∧
    (∀ first before op e after, (∀ pair ∈ neighbours first before, Passes false pair) →
      ¬ Passes false (compare (lastOperand first before) [(op, e)]) →
      (compare first (before ++ (op, e) :: after)).eval =
        (compare (lastOperand first before) [(op, e)]).eval) := by
  refine ⟨fun xs ys zs hys => ⟨eval_and_nested hys xs zs, eval_or_nested hys xs zs⟩,
    fun terms => ⟨eval_not_and terms, eval_not_or terms⟩, fun first rest hrest =>
    eval_compare hrest first, fun xs e zs hxs he => ?_, fun xs e zs hxs he => ?_,
    fun first before op e after => eval_compare_of_not_passes⟩
  · rw [eval_and, evalUntil_of_not_passes hxs he]
  · rw [eval_or, evalUntil_of_not_passes hxs he]

/-- A text and an integer, which have no order. -/
def unordered : Expr := compare (literal (.str "5")) [(.gt, literal (.int 3))]

/-- An empty text decides a conjunction from inside a nested one, and a pair decides a chain. What
has no order stands behind both and is not looked at. -/
theorem eval_grouped_unordered :
    [literal (.str ""), unordered] ≠ [] ∧
    unordered.eval = .error (.unordered (.str "5") (.int 3)) ∧
    (and ([literal (.str "a")] ++ [and [literal (.str ""), unordered]] ++ [unordered])).eval =
      .ok (.str "") ∧
    (compare (literal (.str "b")) [(.lt, literal (.str "a")), (.lt, unordered)]).eval =
      .ok (.bool false) := by
  obtain ⟨hnested, -, -, hand, -, hchain⟩ := eval_grouped
  have hfirst : ∀ x ∈ [literal (.str "a")], Passes false x := by
    simp [Passes, eval, Literal.truthy]
  have hempty : ¬ Passes false (literal (.str "")) := by
    simp [Passes, eval, Literal.truthy]
  have hpair : ¬ Passes false (compare (literal (.str "b")) [(.lt, literal (.str "a"))]) := by
    rintro ⟨l, hl, htruthy⟩
    cases hl
    cases htruthy
  refine ⟨by simp, rfl, ?_, ?_⟩
  · obtain ⟨hflat, -⟩ :=
      hnested [literal (.str "a")] [literal (.str ""), unordered] [unordered] (by simp)
    exact hflat.trans (hand _ _ [unordered, unordered] hfirst hempty)
  · exact hchain _ [] .lt (literal (.str "a")) [(.lt, unordered)] (by simp [neighbours]) hpair

/-! ## Grouping inside conditions -/

theorem evalUntil_congr (h : e.eval = e'.eval) (last : Literal) (xs zs : List Expr) :
    evalUntil decisive last (xs ++ e :: zs) = evalUntil decisive last (xs ++ e' :: zs) := by
  induction xs generalizing last with
  | nil => rw [List.nil_append, List.nil_append, evalUntil_cons, evalUntil_cons, h]
  | cons x xs ih => simp only [List.cons_append, evalUntil_cons, ih]

theorem evalChain_congr (h : e.eval = e'.eval) (left : Literal) (op : Comparison)
    (before after : List (Comparison × Expr)) :
    evalChain left (before ++ (op, e) :: after) = evalChain left (before ++ (op, e') :: after) := by
  induction before generalizing left with
  | nil => rw [List.nil_append, List.nil_append, evalChain_cons, evalChain_cons, h]
  | cons part before ih =>
    obtain ⟨op', x⟩ := part
    simp only [List.cons_append, evalChain_cons, ih]

/-- Conditions that differ in how operands are grouped, at any place inside them. -/
inductive Regrouped : Expr → Expr → Prop
  | refl (e : Expr) : Regrouped e e
  | symm {e e' : Expr} (h : Regrouped e e') : Regrouped e' e
  | trans {e e' e'' : Expr} (h : Regrouped e e') (h' : Regrouped e' e'') : Regrouped e e''
  | nestedAnd {ys : List Expr} (hys : ys ≠ []) (xs zs : List Expr) :
      Regrouped (and (xs ++ [and ys] ++ zs)) (and (xs ++ ys ++ zs))
  | nestedOr {ys : List Expr} (hys : ys ≠ []) (xs zs : List Expr) :
      Regrouped (or (xs ++ [or ys] ++ zs)) (or (xs ++ ys ++ zs))
  | notAnd (terms : List Expr) : Regrouped (not (and terms)) (not (not (or (terms.map not))))
  | notOr (terms : List Expr) : Regrouped (not (or terms)) (not (not (and (terms.map not))))
  | pairs {rest : List (Comparison × Expr)} (hrest : rest ≠ []) (first : Expr) :
      Regrouped (compare first rest) (and (neighbours first rest))
  | not {e e' : Expr} (h : Regrouped e e') : Regrouped (not e) (not e')
  | and {e e' : Expr} (h : Regrouped e e') (xs zs : List Expr) :
      Regrouped (and (xs ++ e :: zs)) (and (xs ++ e' :: zs))
  | or {e e' : Expr} (h : Regrouped e e') (xs zs : List Expr) :
      Regrouped (or (xs ++ e :: zs)) (or (xs ++ e' :: zs))
  | first {e e' : Expr} (h : Regrouped e e') (rest : List (Comparison × Expr)) :
      Regrouped (compare e rest) (compare e' rest)
  | operand {e e' : Expr} (h : Regrouped e e') (first : Expr) (op : Comparison)
      (before after : List (Comparison × Expr)) :
      Regrouped (compare first (before ++ (op, e) :: after))
        (compare first (before ++ (op, e') :: after))

theorem eval_not_not (e : Expr) : (not (not e)).eval = e.eval.map fun l => .bool l.truthy := by
  rw [eval_not, eval_not]
  cases e.eval with
  | error f => rfl
  | ok l => simp [Except.map, truthy_bool]

/-- Regrouping at any place inside a condition leaves its literal, or its fault. -/
theorem Regrouped.eval_eq (h : Regrouped e e') : e.eval = e'.eval := by
  induction h with
  | refl e => rfl
  | symm h ih => exact ih.symm
  | trans h h' ih ih' => exact ih.trans ih'
  | nestedAnd hys xs zs => exact eval_and_nested hys xs zs
  | nestedOr hys xs zs => exact eval_or_nested hys xs zs
  | notAnd terms => rw [eval_not_and, eval_not_not]
  | notOr terms => rw [eval_not_or, eval_not_not]
  | pairs hrest first => exact eval_compare hrest first
  | not h ih => rw [eval_not, eval_not, ih]
  | and h xs zs ih => rw [eval_and, eval_and, evalUntil_congr ih]
  | or h xs zs ih => rw [eval_or, eval_or, evalUntil_congr ih]
  | first h rest ih => rw [eval_compare_eq_bind, eval_compare_eq_bind, ih]
  | operand h first op before after ih =>
    rw [eval_compare_eq_bind, eval_compare_eq_bind]
    exact congrArg first.eval.bind (funext fun left => evalChain_congr ih left op before after)

end Expr

end Flowscript.Condition
