import Flowscript.Run.Work

/-!
# Dispatching nodes

A run dispatches a node by its name: it looks the node up, checks the limits, enters it and does its
work. A node that is unknown or over a limit is not entered.
-/

namespace Flowscript.Setup

/-- Why a node may not be entered. -/
def refusal? (setup : Setup) (node : String) (s : RunState) : Option Failure :=
  let limits := setup.limits
  if limits.maxVisits ≤ s.path.size then some (.visitLimitExceeded node (s.path.size + 1))
  else if limits.maxVisitsPerNode ≠ 0 ∧ limits.maxVisitsPerNode ≤ s.visits node then
    some (.visitLimitExceeded node (s.visits node + 1))
  else none

/-- The progress that has just entered a node. -/
def entered (setup : Setup) (n : Node) (p : Progress) : Progress :=
  (p.withState (p.state.enter n.name)).report
    (.nodeStarted setup.run setup.workflow.name n.name n.kind.keyword)

/-- Enters a node and does its work. -/
def perform (setup : Setup) (n : Node) (p : Progress) : Outcome Node :=
  match setup.work n (setup.entered n p) with
  | .stopped cause p => .stopped cause p
  | .ok _ p => .ok n (p.report (.nodeCompleted setup.run setup.workflow.name n.name))

/-- Dispatches the node of a name. -/
def dispatch (setup : Setup) (name : String) (p : Progress) : Outcome Node :=
  match setup.workflow.node? name with
  | none => .stopped (.nodeNotFound setup.workflow.name name) p
  | some n =>
    match setup.refusal? name p.state with
    | some cause => .stopped cause p
    | none => setup.perform n p

end Flowscript.Setup
