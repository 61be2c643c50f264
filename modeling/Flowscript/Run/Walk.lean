import Flowscript.Run.Weight

/-!
# Walking a workflow

A run walks a workflow depth first from each of its input nodes in turn. The first failure stops it,
and what was done before remains.
-/

namespace Flowscript

namespace Setup

/-- Goes on with a walk until its stack is empty. -/
def finish (setup : Setup) (stack : List Frame) (p : Progress) : Outcome Unit :=
  match _h : setup.turn stack p with
  | .done p => .ok () p
  | .stopped cause p => .stopped cause p
  | .go stack p => finish setup stack p
termination_by weight setup.workflow stack
decreasing_by exact weight_lt_of_turn ‹setup.turn _ _ = .go _ _›

/-- Walks a workflow from the node of a name. -/
def walk (setup : Setup) (entry : String) (p : Progress) : Outcome Unit :=
  match setup.dispatch entry p with
  | .stopped cause p => .stopped cause p
  | .ok node p => setup.finish [{ node, pending := setup.workflow.edges }] p

/-- Walks a workflow from one node after the other. -/
def walkAll (setup : Setup) (entries : List Node) (p : Progress) : Outcome Unit :=
  match entries with
  | [] => .ok () p
  | n :: more =>
    match setup.walk n.name p with
    | .stopped cause p => .stopped cause p
    | .ok _ p => setup.walkAll more p

/-- Runs a workflow: walks it from each of its input nodes. -/
def execute (setup : Setup) (p : Progress) : Outcome Unit :=
  match setup.workflow.inputs with
  | [] => .stopped (.noInputNode setup.workflow.name) p
  | entries =>
    match setup.walkAll entries p with
    | .stopped cause p => .stopped cause p
    | .ok _ p => .ok () (p.withState p.state.complete)

end Setup

end Flowscript
