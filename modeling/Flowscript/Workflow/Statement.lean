import Flowscript.Failure
import Flowscript.Workflow.Connection
import Flowscript.Workflow.Literal
import Flowscript.Workflow.Params

/-!
# Statements

A line of a workflow defines a variable (`name := literal`), connects nodes (`a --> b`) or defines a
node (`name: kind(parameters)`). Which of them it is follows from the marks it contains, and the
first that fits in this order decides: a line with `:=` is never a connection, and one with an
operator never a node.
-/

namespace Flowscript

/-- What a line of a workflow states. -/
inductive Statement where
  | variable (name : String) (value : Value)
  | connection (edges : List Edge)
  | node (node : Node)

/-- Why a line states nothing. -/
inductive LineFault where
  | noHeader
  | unnamedWorkflow
  | unnamedVariable
  | unnamedNode
  | noOpening (definition : String)
  | noClosing (definition : String)
  | unknownKind (keyword : String)
  | missingEnd (missing : Connection.End)
  | unrecognized (line : String)

/-- The failure that a fault on a line means. -/
def LineFault.failure (line : Nat) : LineFault → Failure
  | noHeader => .format line "workflow must start with 'workflow: <name>'"
  | unnamedWorkflow => .format line "workflow name must not be empty"
  | unnamedVariable => .format line "variable name must not be empty"
  | unnamedNode => .format line "node name must not be empty"
  | noOpening definition => .format line ("missing '(' in node definition: " ++ definition)
  | noClosing definition => .format line ("missing ')' in node definition: " ++ definition)
  | unknownKind keyword => .unknownNodeKind line keyword
  | missingEnd missing =>
    .invalidConnection line ("connection is missing its " ++ missing.word ++ " node")
  | unrecognized text => .format line ("unrecognized line: " ++ text)

namespace Statement

/-- A name without the blanks around it, if it is not blank. -/
def name (unnamed : LineFault) (cs : List Char) : Except LineFault String :=
  match Text.trim cs with
  | [] => .error unnamed
  | cs => .ok (String.ofList cs)

/-- A variable definition from the text on both sides of its mark. -/
def readVariable (left right : List Char) : Except LineFault Statement := do
  let name ← name .unnamedVariable left
  .ok (.variable name (Literal.value (Text.trim right)))

/-- The kind and the parameter list of a node. Text behind the last parenthesis is ignored. -/
def definition (cs : List Char) : Except LineFault (NodeKind × Dict String) :=
  match Text.cutAt? '(' cs with
  | none => .error (.noOpening (String.ofList cs))
  | some (keyword, inner) =>
    match Text.cutLast? ')' inner with
    | none => .error (.noClosing (String.ofList cs))
    | some (params, _) =>
      let keyword := String.ofList (Text.trim keyword)
      match NodeKind.ofKeyword? keyword with
      | none => .error (.unknownKind keyword)
      | some kind => .ok (kind, Params.read params)

/-- A node definition from the text on both sides of its colon. -/
def readNode (left right : List Char) : Except LineFault Statement := do
  let name ← name .unnamedNode left
  let (kind, params) ← definition (Text.trim right)
  .ok (.node { name, kind, params })

/-- The edges of a connection as a statement. -/
def readConnection (line : List Char) : Except LineFault Statement :=
  match Connection.edges line with
  | .error missing => .error (.missingEnd missing)
  | .ok edges => .ok (.connection edges)

/-- Reads a line without blanks around it. -/
def read (line : List Char) : Except LineFault Statement :=
  match Text.cut? [':', '='] line with
  | some (left, right) => readVariable left right
  | none =>
    if Connection.isConnection line then readConnection line
    else
      match Text.cutAt? ':' line with
      | some (left, right) =>
        if line.contains '(' && line.contains ')' then readNode left right
        else .error (.unrecognized (String.ofList line))
      | none => .error (.unrecognized (String.ofList line))

end Statement

end Flowscript
