import Flowscript.Run.Dispatch
import Flowscript.Run.Frame

/-!
# Turns

A turn of a walk looks at the next edge that leaves the topmost node of the stack. It dispatches the
target and puts that on top, or skips the edge; where no edge is left it takes the topmost node off.
A followed edge back to a node on the path stops the run.
-/

namespace Flowscript

/-- What a turn of a walk leads to. -/
inductive Turn where
  | go (stack : List Frame) (p : Progress)
  | done (p : Progress)
  | stopped (cause : Failure) (p : Progress)

namespace Setup

/-- Follows an edge from the topmost node of a stack. -/
def follow (setup : Setup) (target : String) (stack : List Frame) (p : Progress) : Turn :=
  if onPath target stack then
    .stopped (.cycleDetected setup.workflow.name target (cycleFrom target stack)) p
  else
    match setup.dispatch target p with
    | .stopped cause p => .stopped cause p
    | .ok node p => .go ({ node, pending := setup.workflow.edges } :: stack) p

/-- One turn of a walk. -/
def turn (setup : Setup) (stack : List Frame) (p : Progress) : Turn :=
  match stack with
  | [] => .done p
  | f :: below =>
    match f.next? with
    | none => .go below p
    | some (e, f) =>
      if follows f.node e p.state then setup.follow e.target (f :: below) p
      else .go (f :: below) p

end Setup

end Flowscript
