import Flowscript.Proofs.Walk.Lockstep

/-!
# Runs that are repeated

A run may depend on the calls that were made before it only through collaborators that remember
them. Without such collaborators a run that is repeated under another identifier, after whatever
calls, takes the same steps: it comes to the same state, makes the same calls again, and reports the
same events under its own identifier. The main statement is `again_execute`.
-/

namespace Flowscript

/-- A collaborator whose answers do not depend on the calls before. -/
def Collaborator.Memoryless {ι ω : Type} (c : Collaborator ι ω) : Prop :=
  ∀ (calls calls' : Array Call) (input : ι), c.answer calls input = c.answer calls' input

theorem Collaborator.memoryless_pure {ι ω : Type} (f : ι → Except Failure ω) (delay : Nat)
    (timeout : Option Nat) : (Collaborator.pure f delay timeout).Memoryless :=
  fun _ _ _ => rfl

/-- Collaborators none of which depends on the calls before. -/
structure Collaborators.Memoryless (c : Collaborators) : Prop where
  agent : ∀ name agent, c.agents.get? name = some agent → agent.Memoryless
  function : ∀ name function, c.functions.get? name = some function → function.Memoryless
  prompt : ∀ executor, c.prompt = some executor → executor.Memoryless

/-- The event, reported by another run. -/
def Event.withRun (e : Event) (id : RunId) : Event :=
  match e with
  | runStarted _ workflow => runStarted id workflow
  | nodeStarted _ workflow node kind => nodeStarted id workflow node kind
  | nodeCompleted _ workflow node => nodeCompleted id workflow node
  | conditionFailed _ workflow node expression error =>
    conditionFailed id workflow node expression error
  | runCompleted _ workflow visited => runCompleted id workflow visited
  | runFailed _ workflow error => runFailed id workflow error

/-- The progress of a run and of its repetition, which have started after some calls each. -/
structure Again (id : RunId) (earlier earlier' : Array Call) (p q : Progress) : Prop where
  state : q.state = p.state
  calls : ∃ own, p.calls = earlier ++ own ∧ q.calls = earlier' ++ own
  events : q.events = p.events.map (·.withRun id)

namespace Again

variable {id : RunId} {earlier earlier' : Array Call} {p q : Progress}

theorem withState (h : Again id earlier earlier' p q) (s : RunState) :
    Again id earlier earlier' (p.withState s) (q.withState s) :=
  ⟨rfl, h.calls, h.events⟩

theorem report (h : Again id earlier earlier' p q) (e : Event) :
    Again id earlier earlier' (p.report e) (q.report (e.withRun id)) :=
  ⟨h.state, h.calls, by simp [Progress.report, h.events]⟩

theorem note (h : Again id earlier earlier' p q) (c : Call) :
    Again id earlier earlier' (p.note c) (q.note c) := by
  obtain ⟨own, hp, hq⟩ := h.calls
  exact ⟨h.state, ⟨own.push c, by simp [Progress.note, hp], by simp [Progress.note, hq]⟩, h.events⟩

theorem setResult (h : Again id earlier earlier' p q) (node : String) (v : Value) :
    Again id earlier earlier' (p.setResult node v) (q.setResult node v) := by
  unfold Progress.setResult
  rw [h.state]
  exact h.withState _

end Again

namespace Setup

variable {setup : Setup} {id : RunId} {earlier earlier' : Array Call} {p q : Progress}

/-- The setup of a run under another identifier. -/
def withRun (setup : Setup) (id : RunId) : Setup :=
  { setup with run := id }

theorem again_consult (setup : Setup) {ι ω : Type} {c : Collaborator ι ω} (hc : c.Memoryless)
    (h : Again id earlier earlier' p q) (node callee : String) (call : Call) (input : ι) :
    (setup.consult node callee c call input p).Matches (Again id earlier earlier')
      ((setup.withRun id).consult node callee c call input q) := by
  unfold consult
  dsimp only [withRun]
  rw [h.state, hc q.calls p.calls]
  split
  · exact .stopped _ (h.note call)
  · exact .ok _ (h.note call)

theorem again_storing {o o' : Outcome Value} (h : o.Matches (Again id earlier earlier') o')
    (node : String) :
    (storing node o).Matches (Again id earlier earlier') (storing node o') := by
  cases h with
  | ok v h => exact .ok () (h.setResult node v)
  | stopped cause h => exact .stopped cause h

theorem again_work (hsetup : setup.collaborators.Memoryless) (h : Again id earlier earlier' p q)
    (n : Node) :
    (setup.work n p).Matches (Again id earlier earlier') ((setup.withRun id).work n q) := by
  cases hkind : n.kind with
  | input =>
    simp only [work, hkind]
    exact .ok () h
  | output =>
    simp only [work, hkind, outputWork, h.state]
    exact .ok () (h.withState _)
  | condition =>
    simp only [work, hkind, conditionWork, h.state]
    split
    · exact .ok () (h.setResult _ _)
    · refine .ok () (Again.setResult ?_ _ _)
      unfold noteFault
      dsimp only
      rw [h.state]
      exact (h.report _).withState _
  | agent =>
    simp only [work, hkind, agentWork, h.state]
    dsimp only [withRun]
    split
    · exact .stopped _ h
    · next agent hagent =>
      exact again_storing (again_consult setup (hsetup.agent _ _ hagent) h ..) _
  | function =>
    simp only [work, hkind, functionWork, h.state]
    dsimp only [withRun]
    split
    · exact .stopped _ h
    · next function hfunction =>
      split
      · exact again_storing (again_consult setup (hsetup.function _ _ hfunction) h ..) _
      · exact .stopped _ h
  | prompt =>
    simp only [work, hkind, promptWork, h.state]
    dsimp only [withRun]
    split
    · exact .stopped _ h
    · next executor hexecutor =>
      have hconsult := again_consult setup (hsetup.prompt _ hexecutor) h n.name "prompt"
        (.prompt (request p.state.scope n)) (request p.state.scope n)
      dsimp only [withRun] at hconsult
      revert hconsult
      generalize setup.consult _ _ _ _ _ p = o
      generalize consult _ _ _ _ _ _ q = o'
      intro hconsult
      cases hconsult with
      | ok response h => exact .ok () (h.setResult _ _)
      | stopped cause h => exact .stopped cause h

theorem again_entered (setup : Setup) (h : Again id earlier earlier' p q) (n : Node) :
    Again id earlier earlier' (setup.entered n p) ((setup.withRun id).entered n q) := by
  unfold entered
  rw [h.state]
  exact (h.withState _).report _

theorem again_perform (hsetup : setup.collaborators.Memoryless)
    (h : Again id earlier earlier' p q) (n : Node) :
    (setup.perform n p).Matches (Again id earlier earlier') ((setup.withRun id).perform n q) := by
  have hwork := again_work hsetup (again_entered setup h n) n
  unfold perform
  generalize setup.work n _ = o at hwork ⊢
  generalize (setup.withRun id).work n _ = o' at hwork ⊢
  cases hwork with
  | ok u h => exact .ok n (h.report _)
  | stopped cause h => exact .stopped cause h

theorem again_dispatch (hsetup : setup.collaborators.Memoryless)
    (h : Again id earlier earlier' p q) (name : String) :
    (setup.dispatch name p).Matches (Again id earlier earlier')
      ((setup.withRun id).dispatch name q) := by
  have hrefusal : (setup.withRun id).refusal? name q.state = setup.refusal? name p.state := by
    rw [h.state]
    rfl
  have hworkflow : (setup.withRun id).workflow = setup.workflow := rfl
  simp only [dispatch, hworkflow, hrefusal]
  cases setup.workflow.node? name with
  | none => exact .stopped _ h
  | some n =>
    cases setup.refusal? name p.state with
    | some cause => exact .stopped cause h
    | none => exact again_perform hsetup h n

theorem lockstep_again (hsetup : setup.collaborators.Memoryless) (id : RunId)
    (earlier earlier' : Array Call) :
    Lockstep (Again id earlier earlier') setup (setup.withRun id) where
  workflow := rfl
  follows h n e := by rw [h.state]
  complete h := by
    rw [h.state]
    exact h.withState _
  dispatch h name := again_dispatch hsetup h name

/-- A run that is repeated ends in the same way: it returns or stops for the same cause, in the same
state, and its calls and events are the same but for those before it and its identifier. -/
theorem again_execute (hsetup : setup.collaborators.Memoryless) (id : RunId) (state : RunState)
    (earlier earlier' : Array Call) :
    (setup.execute (.start state earlier)).Matches (Again id earlier earlier')
      ((setup.withRun id).execute (.start state earlier')) :=
  (lockstep_again hsetup id earlier earlier').execute
    ⟨rfl, ⟨#[], by simp [Progress.start], by simp [Progress.start]⟩, by simp [Progress.start]⟩

end Setup

end Flowscript
