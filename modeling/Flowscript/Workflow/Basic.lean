import Flowscript.Value.Basic

/-!
# Workflows

A workflow is a graph of named nodes. Each node has a kind and unresolved parameters, each edge says
when it is followed, and the workflow has variables. Edges may name nodes that do not exist; that
matters only when a run gets there.
-/

namespace Flowscript

/-- What a node does. -/
inductive NodeKind where
  | input
  | output
  | agent
  | function
  | prompt
  | condition
  deriving DecidableEq, Repr

namespace NodeKind

/-- All kinds. -/
def all : List NodeKind := [.input, .output, .agent, .function, .prompt, .condition]

/-- The keyword of a kind. -/
def keyword : NodeKind → String
  | input => "input"
  | output => "output"
  | agent => "agent"
  | function => "function"
  | prompt => "prompt"
  | condition => "condition"

/-- The kind with a keyword. -/
def ofKeyword? (word : String) : Option NodeKind :=
  all.find? fun kind => kind.keyword = word

theorem ofKeyword?_keyword (kind : NodeKind) : ofKeyword? kind.keyword = some kind := by
  cases kind <;> decide

end NodeKind

/-- When an edge is followed: always, or when the condition it leaves came out true or false. -/
inductive EdgeKind where
  | always
  | whenTrue
  | whenFalse
  deriving DecidableEq, Repr

namespace EdgeKind

/-- All kinds. -/
def all : List EdgeKind := [.always, .whenTrue, .whenFalse]

/-- The connection operator of a kind. -/
def operator : EdgeKind → String
  | always => "-->"
  | whenTrue => "==>"
  | whenFalse => "=/>"

/-- The kind with a connection operator. -/
def ofOperator? (text : String) : Option EdgeKind :=
  all.find? fun kind => kind.operator = text

theorem ofOperator?_operator (kind : EdgeKind) : ofOperator? kind.operator = some kind := by
  cases kind <;> decide

end EdgeKind

/-- A node with its unresolved parameters. -/
structure Node where
  name : String
  kind : NodeKind
  params : Dict String

namespace Node

/-- A parameter. -/
def param? (n : Node) (key : String) : Option String :=
  n.params.get? key

/-- A parameter, or `default` where it is missing. -/
def param (n : Node) (key default : String) : String :=
  (n.param? key).getD default

end Node

/-- The variable that holds the result of a node. -/
def resultKey (name : String) : String :=
  name ++ "_result"

/-- A directed edge between two node names. -/
structure Edge where
  source : String
  target : String
  kind : EdgeKind
  deriving DecidableEq

/-- A workflow. -/
structure Workflow where
  name : String
  nodes : List Node
  edges : List Edge
  vars : Object

namespace Workflow

/-- The workflow with nothing but a name. -/
def named (name : String) : Workflow :=
  { name, nodes := [], edges := [], vars := ∅ }

/-- Nodes with `node` in the place of the first one of its name, or else at the end, and whether
there was one. -/
def insertInto (node : Node) : List Node → Bool × List Node
  | [] => (false, [node])
  | n :: more =>
    if n.name = node.name then (true, node :: more) else (insertInto node more).map id (n :: ·)

/-- The node defined under a name. -/
def node? (w : Workflow) (name : String) : Option Node :=
  w.nodes.find? fun n => n.name = name

/-- Whether a name is the name of a node. -/
def defines (w : Workflow) (name : String) : Bool :=
  w.nodes.any fun n => n.name = name

/-- Defines a node, and tells whether an earlier definition of the name is replaced, which happens
in place. -/
def putNode (w : Workflow) (node : Node) : Bool × Workflow :=
  (insertInto node w.nodes).map id fun nodes => { w with nodes }

/-- The workflow with a further definition of a node. -/
def insertNode (w : Workflow) (node : Node) : Workflow :=
  (w.putNode node).2

/-- Adds edges behind the others. -/
def addEdges (w : Workflow) (edges : List Edge) : Workflow :=
  { w with edges := w.edges ++ edges }

/-- Sets a variable. -/
def setVariable (w : Workflow) (name : String) (value : Value) : Workflow :=
  { w with vars := w.vars.insert name value }

/-- The input nodes, in order of definition. -/
def inputs (w : Workflow) : List Node :=
  w.nodes.filter fun n => n.kind = .input

/-- The edges that leave a node, in order. -/
def outgoing (w : Workflow) (source : String) : List Edge :=
  w.edges.filter fun e => e.source = source

/-- The names at the ends of edges, in order of the edges. -/
def endpoints (w : Workflow) : List String :=
  w.edges.flatMap fun e => [e.source, e.target]

/-- The names at the ends of edges that no node has, in ascending order and each once. -/
def dangling (w : Workflow) : List String :=
  (Dict.ofList ((w.endpoints.filter fun name => !w.defines name).map (·, ()))).keys

theorem defines_iff (w : Workflow) (name : String) :
    w.defines name = true ↔ ∃ n ∈ w.nodes, n.name = name := by
  simp [defines]

end Workflow

end Flowscript
