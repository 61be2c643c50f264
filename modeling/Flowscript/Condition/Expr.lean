import Flowscript.Condition.Token

/-!
# Condition expressions

An expression is built of literals, comparison chains and the connectives. A connective yields the
operand that decides it and looks at none behind that one; a comparison chain holds where each
neighbouring pair compares. Only numbers, truth values among them, and two texts have an order.
-/

namespace Flowscript.Condition

/-- A condition. -/
inductive Expr where
  | literal (l : Literal)
  | not (e : Expr)
  | and (terms : List Expr)
  | or (terms : List Expr)
  | compare (first : Expr) (rest : List (Comparison × Expr))
  deriving Inhabited

namespace Literal

/-- Whether two literals are equal. Integers are compared as they are, other numbers as floating
point numbers. -/
def equals (left right : Literal) : Bool :=
  match left, right with
  | int a, int b => a == b
  | str a, str b => a == b
  | null, null => true
  | _, _ =>
    match left.number?, right.number? with
    | some a, some b => a == b
    | _, _ => false

/-- Whether two numbers compare; what is not a number compares with nothing. -/
def comparesNumber (op : Comparison) (a b : Float) : Bool :=
  match op with
  | .eq => a == b
  | .ne => a != b
  | .lt => a < b
  | .gt => b < a
  | .le => a ≤ b
  | .ge => b ≤ a

/-- Whether two texts compare, in the order of their characters. -/
def comparesText (op : Comparison) (a b : String) : Bool :=
  match op with
  | .eq => a == b
  | .ne => a != b
  | .lt => a < b
  | .gt => b < a
  | .le => a ≤ b
  | .ge => b ≤ a

/-- Whether two literals have an order and compare. -/
def ordered (op : Comparison) (left right : Literal) : Except Fault Bool :=
  match left, right with
  | str a, str b => .ok (comparesText op a b)
  | _, _ =>
    match left.number?, right.number? with
    | some a, some b => .ok (comparesNumber op a b)
    | _, _ => .error (.unordered left right)

/-- Whether two literals compare. -/
def compares (op : Comparison) (left right : Literal) : Except Fault Bool :=
  match op with
  | .eq => .ok (equals left right)
  | .ne => .ok (!equals left right)
  | op => ordered op left right

end Literal

namespace Expr

mutual

/-- The literal that an expression evaluates to. -/
def eval : Expr → Except Fault Literal
  | literal l => .ok l
  | not e =>
    match e.eval with
    | .error f => .error f
    | .ok l => .ok (.bool !l.truthy)
  | and terms => evalUntil false (.bool true) terms
  | or terms => evalUntil true (.bool false) terms
  | compare first rest =>
    match first.eval with
    | .error f => .error f
    | .ok l => evalChain l rest

/-- The first term whose truth is `decisive`, or else the last one; `last` if there is none. -/
def evalUntil (decisive : Bool) (last : Literal) : List Expr → Except Fault Literal
  | [] => .ok last
  | e :: more =>
    match e.eval with
    | .error f => .error f
    | .ok l => if l.truthy = decisive then .ok l else evalUntil decisive l more

/-- Whether a literal compares with the first operand of a chain, that with the next, and so on. -/
def evalChain (left : Literal) : List (Comparison × Expr) → Except Fault Literal
  | [] => .ok (.bool true)
  | (op, e) :: more =>
    match e.eval with
    | .error f => .error f
    | .ok right =>
      match left.compares op right with
      | .error f => .error f
      | .ok false => .ok (.bool false)
      | .ok true => evalChain right more

end

end Expr

end Flowscript.Condition
