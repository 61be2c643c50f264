import Flowscript.Proofs.Walk.Steps

/-!
# Runs in lock step

Two runs of a workflow may differ in something that no step depends on. If such a difference stays
what it is whatever node both runs dispatch, they take the same steps from the beginning to the end:
`Lockstep.execute`.
-/

namespace Flowscript

/-- Outcomes with the same value, or with the same cause, whose progress is related. -/
inductive Outcome.Matches (R : Progress → Progress → Prop) {α : Type} :
    Outcome α → Outcome α → Prop
  | ok (a : α) {p q : Progress} (h : R p q) : Matches R (.ok a p) (.ok a q)
  | stopped (cause : Failure) {p q : Progress} (h : R p q) :
      Matches R (.stopped cause p) (.stopped cause q)

/-- Going on in both runs keeps their outcomes related, if it does from the same value. -/
theorem Outcome.Matches.bind {R : Progress → Progress → Prop} {α β : Type} {o o' : Outcome α}
    {next next' : α → Progress → Outcome β} (h : o.Matches R o')
    (hnext : ∀ a p q, R p q → (next a p).Matches R (next' a q)) :
    (o.bind next).Matches R (o'.bind next') := by
  cases h with
  | ok a hR => exact hnext a _ _ hR
  | stopped cause hR => exact .stopped cause hR

/-- Setups for one workflow whose runs keep their progress related as long as they dispatch the same
nodes. What edges they follow has to be decided alike. -/
structure Lockstep (R : Progress → Progress → Prop) (setup other : Setup) : Prop where
  workflow : other.workflow = setup.workflow
  follows {p q : Progress} (h : R p q) (n : Node) (e : Edge) :
    follows n e q.state = follows n e p.state
  complete {p q : Progress} (h : R p q) :
    R (p.withState p.state.complete) (q.withState q.state.complete)
  dispatch {p q : Progress} (h : R p q) (name : String) :
    (setup.dispatch name p).Matches R (other.dispatch name q)

namespace Lockstep

open Setup

variable {R : Progress → Progress → Prop} {setup other : Setup} {p q : Progress}

theorem follow (hstep : Lockstep R setup other) (h : R p q) (target : String)
    (stack : List Frame) :
    (setup.follow target stack p).outcome.Matches R (other.follow target stack q).outcome := by
  cases hpath : onPath target stack with
  | true =>
    simp only [Setup.follow, hpath, if_true, hstep.workflow]
    exact .stopped _ h
  | false =>
    rw [follow_eq_bind _ _ hpath, follow_eq_bind _ _ hpath, hstep.workflow]
    refine (hstep.dispatch h target).bind ?_
    intro n p q h
    exact .ok _ h

theorem turn (hstep : Lockstep R setup other) (h : R p q) (stack : List Frame) :
    (setup.turn stack p).outcome.Matches R (other.turn stack q).outcome := by
  cases stack with
  | nil => exact .ok none h
  | cons f below =>
    cases hnext : f.next? with
    | none =>
      simp only [Setup.turn, hnext]
      exact .ok _ h
    | some next =>
      obtain ⟨e, g⟩ := next
      rw [turn_of_next _ _ _ hnext, turn_of_next _ _ _ hnext, hstep.follows h]
      cases Flowscript.follows g.node e p.state with
      | true => exact hstep.follow h e.target (g :: below)
      | false => exact .ok _ h

theorem finish (hstep : Lockstep R setup other) (h : R p q) (stack : List Frame) :
    (setup.finish stack p).Matches R (other.finish stack q) := by
  have hturn := hstep.turn h stack
  fun_induction Setup.finish setup stack p generalizing q with
  | case1 stack p p' hdone =>
    rw [finish_eq_bind other]
    rw [hdone] at hturn
    generalize (other.turn stack q).outcome = o at hturn ⊢
    cases hturn with
    | ok _ h => exact .ok () h
  | case2 stack p cause p' hstopped =>
    rw [finish_eq_bind other]
    rw [hstopped] at hturn
    generalize (other.turn stack q).outcome = o at hturn ⊢
    cases hturn with
    | stopped _ h => exact .stopped cause h
  | case3 stack p next p' hgo ih =>
    rw [finish_eq_bind other]
    rw [hgo] at hturn
    generalize (other.turn stack q).outcome = o at hturn ⊢
    cases hturn with
    | ok _ h => exact ih h (hstep.turn h next)

theorem walk (hstep : Lockstep R setup other) (h : R p q) (entry : String) :
    (setup.walk entry p).Matches R (other.walk entry q) := by
  rw [walk_eq_bind, walk_eq_bind, hstep.workflow]
  refine (hstep.dispatch h entry).bind ?_
  intro n p q h
  exact hstep.finish h _

theorem walkAll (hstep : Lockstep R setup other) (h : R p q) (entries : List Node) :
    (setup.walkAll entries p).Matches R (other.walkAll entries q) := by
  induction entries generalizing p q with
  | nil => exact .ok () h
  | cons n more ih =>
    rw [walkAll_cons_eq_bind, walkAll_cons_eq_bind]
    refine (hstep.walk h n.name).bind ?_
    intro _ p q h
    exact ih h

/-- Runs that start related end alike, and related. -/
theorem execute (hstep : Lockstep R setup other) (h : R p q) :
    (setup.execute p).Matches R (other.execute q) := by
  by_cases hinputs : setup.workflow.inputs = []
  · simp only [Setup.execute, hstep.workflow, hinputs]
    exact .stopped _ h
  · rw [execute_eq_bind setup p hinputs, execute_eq_bind other q (hstep.workflow ▸ hinputs),
      hstep.workflow]
    refine (hstep.walkAll h _).bind ?_
    intro _ p q h
    exact .ok () (hstep.complete h)

end Lockstep

end Flowscript
