import Flowscript.Condition.Expr
import Flowscript.Parser

/-!
# The grammar of conditions

`or` binds loosest, then `and`, `not`, comparison chains, and parentheses, which leave no trace of
their own. Parentheses and `not` may enclose a token sixty-four times altogether: the parser for
what they enclose is the same one with less room.
-/

namespace Flowscript.Condition

/-- A parser of the tokens of a condition. -/
abbrev TermParser := Parser Token Fault Expr

/-- How often parentheses and `not` may enclose a token. -/
def maxDepth : Nat := 64

/-- The separator `or`. -/
def or? : Token → Option Unit
  | .or => some ()
  | _ => none

/-- The separator `and`. -/
def and? : Token → Option Unit
  | .and => some ()
  | _ => none

/-- A comparison operator as a separator. -/
def comparison? : Token → Option Comparison
  | .compare op => some op
  | _ => none

/-- One term as it is, or several joined. -/
def joined (join : List Expr → Expr) (first : Expr) (more : List (Unit × Expr)) : Expr :=
  if more.isEmpty then first else join (first :: more.map (·.2))

/-- One operand as it is, or a comparison chain. -/
def compared (first : Expr) (more : List (Comparison × Expr)) : Expr :=
  if more.isEmpty then first else .compare first more

/-- A literal, or what `nested` finds in parentheses. -/
def primary (nested : TermParser) : TermParser where
  run ts :=
    match ts with
    | .literal l :: rest => .ok (.literal l, rest)
    | .openParen :: rest =>
      match nested.run rest with
      | .error f => .error f
      | .ok (e, .closeParen :: rest) => .ok (e, rest)
      | .ok _ => .error .unclosed
    | t :: _ => .error (.unexpectedToken t)
    | [] => .error .incomplete
  shorter {ts rest a} h := by
    split at h
    · simp_all
    · split at h
      · simp at h
      · rename_i hrun
        have := nested.shorter hrun
        simp only [Except.ok.injEq, Prod.mk.injEq] at h
        simp only [List.length_cons, ← h.2] at this ⊢
        omega
      · simp at h
    · simp at h
    · simp at h

/-- Primaries with comparison operators between them. -/
def comparison (nested : TermParser) : TermParser :=
  .chain comparison? compared (primary nested)

/-- `not` and what `inner` finds behind it, or else a comparison. -/
def negationOf (inner nested : TermParser) : TermParser where
  run ts :=
    match ts with
    | .not :: rest =>
      match inner.run rest with
      | .error f => .error f
      | .ok (e, rest) => .ok (.not e, rest)
    | ts => (comparison nested).run ts
  shorter {ts rest a} h := by
    split at h
    · split at h
      · simp at h
      · rename_i hrun
        have := inner.shorter hrun
        simp only [Except.ok.injEq, Prod.mk.injEq] at h
        simp only [List.length_cons, ← h.2]
        omega
    · exact (comparison nested).shorter h

/-- Conjunctions of what `term` finds, with `or` between them. -/
def disjunction (term : TermParser) : TermParser :=
  .chain or? (joined .or) (.chain and? (joined .and) term)

/-- A term that may still be enclosed `room` times. -/
def negation (room : Nat) : TermParser :=
  match room with
  | 0 => negationOf (.fail .tooDeep) (.fail .tooDeep)
  | room + 1 =>
    let inner := negation room
    negationOf inner (disjunction inner)

/-- The expression that tokens spell. -/
def parse (ts : List Token) : Except Fault Expr :=
  match (disjunction (negation maxDepth)).run ts with
  | .error f => .error f
  | .ok (e, []) => .ok e
  | .ok (_, t :: _) => .error (.leftover t)

end Flowscript.Condition
