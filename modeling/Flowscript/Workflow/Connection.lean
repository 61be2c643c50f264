import Flowscript.Text.Blank
import Flowscript.Workflow.Basic

/-!
# Connections

A connection is a chain of node names with operators between them, such as `a --> b ==> c`. It means
one edge for each operator, from the name before it to the name behind it. Operators are found from
left to right, so a piece between two of them contains none.
-/

namespace Flowscript.Connection

/-- The text before the first operator, and each operator with the text behind it. -/
def pieces : List Char → List Char × List (EdgeKind × List Char)
  | '-' :: '-' :: '>' :: rest =>
    let (piece, more) := pieces rest
    ([], (.always, piece) :: more)
  | '=' :: '=' :: '>' :: rest =>
    let (piece, more) := pieces rest
    ([], (.whenTrue, piece) :: more)
  | '=' :: '/' :: '>' :: rest =>
    let (piece, more) := pieces rest
    ([], (.whenFalse, piece) :: more)
  | c :: rest =>
    let (piece, more) := pieces rest
    (c :: piece, more)
  | [] => ([], [])

/-- Whether text contains an operator. -/
def isConnection (cs : List Char) : Bool :=
  !(pieces cs).2.isEmpty

/-- The two ends of an edge. -/
inductive End where
  | source
  | target
  deriving DecidableEq, Repr

/-- The word for an end. -/
def End.word : End → String
  | source => "source"
  | target => "target"

/-- The name that a piece holds; a blank piece misses its end. -/
def name (missing : End) (piece : List Char) : Except End String :=
  match Text.trim piece with
  | [] => .error missing
  | cs => .ok (String.ofList cs)

/-- The edges of a chain behind its first name. -/
def edgesFrom (source : String) : List (EdgeKind × List Char) → Except End (List Edge)
  | [] => .ok []
  | (kind, piece) :: more => do
    let target ← name .target piece
    let edges ← edgesFrom target more
    .ok ({ source, target, kind } :: edges)

/-- The edges of a connection. -/
def edges (cs : List Char) : Except End (List Edge) := do
  let (first, more) := pieces cs
  let source ← name .source first
  edgesFrom source more

end Flowscript.Connection
