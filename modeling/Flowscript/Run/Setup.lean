import Flowscript.Registry
import Flowscript.Run.Collaborator
import Flowscript.Run.Event
import Flowscript.Workflow.Basic

/-!
# The setup of a run

What a run is given besides its input: the workflow, the collaborators, the limits, and the
identifier under which it reports.
-/

namespace Flowscript

/-- Bounds on a run: how many nodes it may enter, how often each of them, and how many seconds a
collaborator has for an answer. A zero sets no bound on the visits of each node or on the time. -/
structure Limits where
  maxVisits : Nat
  maxVisitsPerNode : Nat
  timeout : Nat
  deriving DecidableEq, Repr

/-- The limits where nothing else is asked for. -/
def Limits.standard : Limits :=
  { maxVisits := 10000, maxVisitsPerNode := 0, timeout := 120 }

/-- Everything a run may call. -/
structure Collaborators where
  agents : Registry Agent
  functions : Registry NamedFunction
  prompt : Option PromptExecutor

/-- No collaborators. -/
def Collaborators.none : Collaborators :=
  { agents := ∅, functions := ∅, prompt := .none }

/-- What a run is given. -/
structure Setup where
  workflow : Workflow
  collaborators : Collaborators
  limits : Limits
  run : RunId

end Flowscript
