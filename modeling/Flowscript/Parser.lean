/-!
# Parsers

A parser takes items off the front of a list and returns what they mean and the rest of the list. It
carries the law that it takes at least one item, so that a parser can be repeated without further
argument.
-/

namespace Flowscript

/-- A parser of items `τ` for meanings `α`, with errors `ε`. -/
structure Parser (τ ε α : Type) where
  run : List τ → Except ε (α × List τ)
  shorter {ts rest : List τ} {a : α} : run ts = .ok (a, rest) → rest.length < ts.length

namespace Parser

variable {τ ε α β γ : Type}

/-- The parser that always fails. -/
def fail (e : ε) : Parser τ ε α where
  run _ := .error e
  shorter h := by simp at h

/-- What the parser `p` finds behind each of the separators that follow one another. -/
def behind (separator? : τ → Option β) (p : Parser τ ε α) (ts : List τ) :
    Except ε (List (β × α) × List τ) :=
  match ts with
  | [] => .ok ([], [])
  | t :: rest =>
    match separator? t with
    | none => .ok ([], t :: rest)
    | some tag =>
      match _h : p.run rest with
      | .error e => .error e
      | .ok (a, rest) =>
        match behind separator? p rest with
        | .error e => .error e
        | .ok (more, rest) => .ok ((tag, a) :: more, rest)
termination_by ts.length
decreasing_by
  have := p.shorter ‹p.run _ = .ok _›
  simp only [List.length_cons]
  omega

theorem length_behind_le {separator? : τ → Option β} {p : Parser τ ε α} {ts rest : List τ}
    {found : List (β × α)} (h : behind separator? p ts = .ok (found, rest)) :
    rest.length ≤ ts.length := by
  fun_induction behind separator? p ts generalizing found rest with
  | case1 => simp_all
  | case2 => simp_all
  | case3 => simp at h
  | case4 => simp at h
  | case5 t rest' tag _ a rest₁ hrun more rest₂ hmore ih =>
    have h₁ := p.shorter hrun
    have h₂ := ih hmore
    simp only [Except.ok.injEq, Prod.mk.injEq] at h
    simp only [List.length_cons, ← h.2]
    omega

/-- One or more of what `p` finds, with separators between them. -/
def chain (separator? : τ → Option β) (join : α → List (β × α) → γ) (p : Parser τ ε α) :
    Parser τ ε γ where
  run ts :=
    match p.run ts with
    | .error e => .error e
    | .ok (first, rest) =>
      match behind separator? p rest with
      | .error e => .error e
      | .ok (more, rest) => .ok (join first more, rest)
  shorter {ts rest a} h := by
    split at h
    · simp at h
    · rename_i hrun
      have h₁ := p.shorter hrun
      split at h
      · simp at h
      · rename_i hmore
        have h₂ := length_behind_le hmore
        simp only [Except.ok.injEq, Prod.mk.injEq] at h
        simp only [← h.2]
        omega

end Parser

end Flowscript
