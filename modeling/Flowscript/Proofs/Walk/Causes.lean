import Flowscript.Proofs.Walk.Dispatches
import Flowscript.Proofs.Walk.Loop

/-!
# Why a run stops

A run stops because it has no input node, because a dispatch is refused or fails, or because an edge
leads back to the path. A cause tells which of these it was: no two of them have one in common.
-/

namespace Flowscript

namespace Failure

/-- Whether a failure comes from the work of a node: what the node calls is missing, fails, takes
too long, or cannot be given the input of the node. -/
def isOfWork : Failure → Bool
  | unregistered .. | collaboratorFailed .. | collaboratorTimeout .. => true
  | _ => false

/-- Whether a failure is that of a step that was refused: a run has nothing to start from, or the
next node is unknown, over a limit or on the path. -/
def isRefusal : Failure → Bool
  | noInputNode .. | nodeNotFound .. | visitLimitExceeded .. | cycleDetected .. => true
  | _ => false

/-- Whether a failure is that of a limit on visits. -/
def isVisitLimit : Failure → Bool
  | visitLimitExceeded .. => true
  | _ => false

end Failure

/-- An outcome whose cause shows something is that of being stopped by this cause. -/
theorem Outcome.exists_eq_stopped {α β : Type} {o : Outcome α} {view : Failure → Option β} {b : β}
    (h : o.cause?.bind view = some b) :
    ∃ cause, view cause = some b ∧ o = .stopped cause o.progress := by
  cases o with
  | ok a q => cases h
  | stopped cause q => exact ⟨cause, h, rfl⟩

namespace Setup

variable {setup : Setup} {name entry : String} {cause : Failure} {p q : Progress} {n : Node}

/-- Only delegated work stops a run. -/
theorem delegates_of_work (h : setup.work n p = .stopped cause q) :
    Delegates setup n p (.stopped cause q) := by
  have hworks := setup.works_work n p
  rw [h] at hworks
  cases hworks with
  | refused hkind | failed hkind => exact h ▸ setup.delegates_work p hkind

/-- The work of a node fails in its own ways only, whatever failure a collaborator answers with. -/
theorem isOfWork_of_work (h : setup.work n p = .stopped cause q) : cause.isOfWork = true := by
  cases delegates_of_work h <;> rfl

/-- A limit stops a run with the count that the refused visit would have made. -/
theorem exists_of_refusal? {s : RunState} (h : setup.refusal? name s = some cause) :
    ∃ visits, cause = .visitLimitExceeded name visits := by
  unfold refusal? at h
  dsimp only at h
  split at h
  · cases h
    exact ⟨_, rfl⟩
  · split at h
    · cases h
      exact ⟨_, rfl⟩
    · cases h

theorem isVisitLimit_of_refusal? {s : RunState} (h : setup.refusal? name s = some cause) :
    cause.isVisitLimit = true := by
  obtain ⟨visits, rfl⟩ := exists_of_refusal? h
  rfl

/-- A dispatch stops a run at an unknown name, at a limit, or because of the work of its node. -/
theorem cause_of_dispatch (h : setup.dispatch name p = .stopped cause q) :
    (cause = .nodeNotFound setup.workflow.name name ∧ setup.workflow.node? name = none) ∨
      cause.isVisitLimit = true ∨ cause.isOfWork = true := by
  have hcases := setup.dispatches_dispatch name p
  rw [h] at hcases
  cases hcases with
  | unknown hnode => exact .inl ⟨rfl, hnode⟩
  | refused hnode hrefusal => exact .inr (.inl (isVisitLimit_of_refusal? hrefusal))
  | failed hnode hadmitted hwork => exact .inr (.inr (isOfWork_of_work hwork))

/-! ## The turn that stops a run -/

/-- A run that walks from `entries` in turn comes to the walk from an entry, with some progress. -/
inductive ComesToWalk (setup : Setup) : List Node → Progress → String → Progress → Prop
  | first (n : Node) (more : List Node) (p : Progress) : ComesToWalk setup (n :: more) p n.name p
  | later {n : Node} {more : List Node} {p q r : Progress} {entry : String}
      (hwalk : setup.walk n.name p = .ok () q) (hmore : ComesToWalk setup more q entry r) :
      ComesToWalk setup (n :: more) p entry r

theorem exists_walk_of_walkAll {entries : List Node}
    (h : setup.walkAll entries p = .stopped cause q) :
    ∃ entry r, setup.ComesToWalk entries p entry r ∧ setup.walk entry r = .stopped cause q := by
  induction entries generalizing p with
  | nil => cases h
  | cons n more ih =>
    rw [walkAll] at h
    split at h
    · next hwalk =>
      cases h
      exact ⟨n.name, p, .first n more p, hwalk⟩
    · next hwalk =>
      obtain ⟨entry, r, hmore, hstopped⟩ := ih h
      exact ⟨entry, r, .later hwalk hmore, hstopped⟩

/-- A run that is stopped has no input node, or is stopped in one of its walks. -/
theorem exists_walk_of_execute (h : setup.execute p = .stopped cause q) :
    cause = .noInputNode setup.workflow.name ∨
      ∃ entry r, setup.ComesToWalk setup.workflow.inputs p entry r ∧
        setup.walk entry r = .stopped cause q := by
  unfold execute at h
  split at h
  · cases h
    exact .inl rfl
  · split at h
    · next hwalks =>
      cases h
      exact .inr (exists_walk_of_walkAll hwalks)
    · cases h

/-- A walk is stopped by the dispatch of its entry or by a turn. -/
theorem exists_turn_of_walk (h : setup.walk entry p = .stopped cause q) :
    setup.dispatch entry p = .stopped cause q ∨
      ∃ turns stack r, setup.Comes entry p turns stack r ∧
        setup.turn stack r = .stopped cause q := by
  cases hdispatch : setup.dispatch entry p with
  | stopped cause' q' =>
    simp only [walk, hdispatch] at h
    cases h
    exact .inl rfl
  | ok n q' =>
    obtain ⟨turns, stack, r, hcomes, hturn⟩ := exists_lastTurn hdispatch
    rw [h] at hturn
    exact .inr ⟨turns, stack, r, hcomes, hturn⟩

end Setup

end Flowscript
