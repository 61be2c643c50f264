import Flowscript.Workflow.Statement

/-!
# Reading workflows

The text of a workflow is read line by line. Blank lines and comments, which start with `#`, mean
nothing. The first other line names the workflow, and each further one is a statement that extends
it. Lines are counted from one, and the first line that states nothing decides the failure.
-/

namespace Flowscript

/-- The lines of a text without blanks around them. -/
def trimmedLines (cs : List Char) : List (List Char) :=
  (Text.pieces '\n' cs).map Text.trim

/-- Whether a trimmed line means something. -/
def isSignificant (line : List Char) : Bool :=
  !line.isEmpty && line.head? != some '#'

/-- The numbered lines that mean something. -/
def significantLines (cs : List Char) : List (Nat × List Char) :=
  (((trimmedLines cs).zipIdx 1).filter fun (line, _) => isSignificant line).map fun (line, n) =>
    (n, line)

namespace Workflow

/-- The name in the header of a workflow. -/
def headerName (line : List Char) : Except LineFault String :=
  match "workflow:".toList.isPrefixOf line with
  | false => .error .noHeader
  | true => Statement.name .unnamedWorkflow (line.drop "workflow:".toList.length)

/-- The workflow that a further statement makes of a workflow. -/
def extend (w : Workflow) : Statement → Workflow
  | .variable name value => w.setVariable name value
  | .connection edges => w.addEdges edges
  | .node node => w.insertNode node

/-- The workflow that a further line makes of a workflow. -/
def extendByLine (w : Workflow) (numbered : Nat × List Char) : Except Failure Workflow :=
  match Statement.read numbered.2 with
  | .error fault => .error (fault.failure numbered.1)
  | .ok statement => .ok (w.extend statement)

/-- The workflow of numbered lines. -/
def ofLines : List (Nat × List Char) → Except Failure Workflow
  | [] => .error (.format 1 "empty workflow, expected 'workflow: <name>'")
  | (n, header) :: more =>
    match headerName header with
    | .error fault => .error (fault.failure n)
    | .ok name => more.foldlM extendByLine (named name)

/-- Reads a whole text as a workflow. -/
def read (text : String) : Except Failure Workflow :=
  ofLines (significantLines text.toList)

end Workflow

end Flowscript
