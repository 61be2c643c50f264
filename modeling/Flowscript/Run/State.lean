import Flowscript.Failure
import Flowscript.Run.Scope
import Flowscript.Workflow.Basic

/-!
# The state of a run

What a run has done so far: the variables and the output as they stand, the nodes it entered, and
the conditions that had no value.
-/

namespace Flowscript

/-- How far a run has come. -/
inductive RunStatus where
  | notStarted
  | running (node : String)
  | completed
  | failed (error : String)
  deriving DecidableEq, Repr

/-- A condition that had no value and was taken as false. -/
structure ConditionError where
  node : String
  expression : String
  message : String
  deriving DecidableEq, Repr

/-- The state of a run. -/
structure RunState where
  input : Object
  vars : Object
  output : Object
  path : Array String
  current : Option String
  status : RunStatus
  conditionErrors : Array ConditionError
  visitCounts : Dict Nat

namespace RunState

/-- The state before the first node. -/
def fresh (input vars : Object) : RunState :=
  { input, vars, output := ∅, path := #[], current := none, status := .notStarted,
    conditionErrors := #[], visitCounts := ∅ }

/-- The names that the nodes of a run refer to. -/
def scope (s : RunState) : Scope :=
  { input := s.input, vars := s.vars }

/-- How often a node was entered. -/
def visits (s : RunState) (node : String) : Nat :=
  s.visitCounts.getD node 0

/-- Enters a node. -/
def enter (s : RunState) (node : String) : RunState :=
  { s with
    path := s.path.push node
    current := some node
    status := .running node
    visitCounts := s.visitCounts.insert node (s.visits node + 1) }

/-- Stores the result of a node among the variables. -/
def setResult (s : RunState) (node : String) (value : Value) : RunState :=
  { s with vars := s.vars.insert (resultKey node) value }

/-- The result of a node. -/
def result? (s : RunState) (node : String) : Option Value :=
  s.vars.get? (resultKey node)

/-- Writes a value to the output. -/
def write (s : RunState) (key : String) (value : Value) : RunState :=
  { s with output := s.output.insert key value }

/-- Records a condition that had no value. -/
def recordError (s : RunState) (error : ConditionError) : RunState :=
  { s with conditionErrors := s.conditionErrors.push error }

/-- Ends a run that went through. -/
def complete (s : RunState) : RunState :=
  { s with current := none, status := .completed }

/-- Ends a run that failed; its current node stays. -/
def fail (s : RunState) (error : String) : RunState :=
  { s with status := .failed error }

/-- The path and the output so far. -/
def trace (s : RunState) : Trace :=
  { path := s.path, partialOutput := s.output }

@[simp] theorem visits_enter (s : RunState) (node name : String) :
    (s.enter node).visits name = if name = node then s.visits node + 1 else s.visits name := by
  simp only [visits, enter, Dict.getD, Dict.get?_insert]
  split <;> rfl

end RunState

end Flowscript
