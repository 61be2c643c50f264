import Flowscript.Run.Collaborator
import Flowscript.Run.Event
import Flowscript.Run.State

/-!
# The progress of a run

A run advances its state, calls collaborators and reports events. Each step either leads on or stops
the run; in both cases what was done remains.
-/

namespace Flowscript

/-- What a run has done so far. -/
structure Progress where
  state : RunState
  calls : Array Call
  events : Array Event

namespace Progress

/-- The progress before the first step, after some earlier calls. -/
def start (state : RunState) (calls : Array Call) : Progress :=
  { state, calls, events := #[] }

/-- Changes the state. -/
def withState (p : Progress) (state : RunState) : Progress :=
  { p with state }

/-- Reports an event. -/
def report (p : Progress) (e : Event) : Progress :=
  { p with events := p.events.push e }

/-- Notes a call. -/
def note (p : Progress) (c : Call) : Progress :=
  { p with calls := p.calls.push c }

/-- Stores the result of a node. -/
def setResult (p : Progress) (node : String) (value : Value) : Progress :=
  p.withState (p.state.setResult node value)

end Progress

/-- How a step ends: with a value, or with the cause that stops the run. -/
inductive Outcome (α : Type) where
  | ok (value : α) (after : Progress)
  | stopped (cause : Failure) (after : Progress)

namespace Outcome

variable {α : Type}

/-- The progress after a step. -/
def progress : Outcome α → Progress
  | ok _ p => p
  | stopped _ p => p

/-- What stopped the run, if anything did. -/
def cause? : Outcome α → Option Failure
  | ok _ _ => none
  | stopped cause _ => some cause

/-- The state in which a run is left. -/
def finalState : Outcome α → RunState
  | ok _ p => p.state
  | stopped cause p => p.state.fail cause.message

end Outcome

end Flowscript
