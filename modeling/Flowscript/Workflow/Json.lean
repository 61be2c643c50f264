import Flowscript.Failure
import Flowscript.Value.Forms
import Flowscript.Workflow.Basic

/-!
# Workflows as JSON

A workflow is written as a record of its name, nodes, edges and variables. Kinds are written as
their keywords and operators. When a workflow is read, all but the names and kinds may be missing.
-/

namespace Flowscript

/-- Texts under names as a JSON tree. -/
def textsToJson (texts : Dict String) : Json :=
  .record (texts.entries.map fun (key, s) => (key, .text s))

/-- The kind of a node that a JSON tree names. -/
def NodeKind.ofJson? (j : Json) : Option NodeKind :=
  j.name?.bind NodeKind.ofKeyword?

/-- The kind of an edge that a JSON tree names. -/
def EdgeKind.ofJson? (j : Json) : Option EdgeKind :=
  j.name?.bind EdgeKind.ofOperator?

namespace Node

/-- A node as a JSON tree. -/
def toJson (n : Node) : Json :=
  .record [("name", .text n.name), ("type", .text n.kind.keyword), ("params", textsToJson n.params)]

/-- The node that a JSON tree denotes. -/
def ofJson? (j : Json) : Option Node :=
  match j.fields? ["name", "type", "params"] with
  | some [some name, some kind, params] => do
    let name ← name.text?
    let kind ← NodeKind.ofJson? kind
    let params ← Json.orDefault? ∅ (Json.dict? Json.text?) params
    some { name, kind, params }
  | _ => none

end Node

namespace Edge

/-- An edge as a JSON tree. -/
def toJson (e : Edge) : Json :=
  .record [("source", .text e.source), ("target", .text e.target), ("type", .text e.kind.operator)]

/-- The edge that a JSON tree denotes. -/
def ofJson? (j : Json) : Option Edge :=
  match j.fields? ["source", "target", "type"] with
  | some [some source, some target, some kind] => do
    let source ← source.text?
    let target ← target.text?
    let kind ← EdgeKind.ofJson? kind
    some { source, target, kind }
  | _ => none

end Edge

namespace Workflow

/-- A workflow as a JSON tree. -/
def toJson (w : Workflow) : Json :=
  .record [("name", .text w.name), ("nodes", .array (w.nodes.map Node.toJson)),
    ("edges", .array (w.edges.map Edge.toJson)), ("variables", Object.toJson w.vars)]

/-- The workflow that a JSON tree denotes. The tree is itself one of the nested containers. -/
def ofJson? (j : Json) : Option Workflow :=
  match j.fields? ["name", "nodes", "edges", "variables"] with
  | some [some name, nodes, edges, vars] => do
    let name ← name.text?
    let nodes ← Json.orDefault? [] (Json.list? Node.ofJson?) nodes
    let edges ← Json.orDefault? [] (Json.list? Edge.ofJson?) edges
    let vars ← Json.orDefault? ∅ (Object.decode? (Value.depthLimit - 1)) vars
    some { name, nodes, edges, vars }
  | _ => none

/-- The compact JSON text of a workflow. -/
def toJsonText (w : Workflow) : String :=
  w.toJson.toText

/-- Reads a JSON text as a workflow. -/
def readJson (text : String) : Except Failure Workflow :=
  match (Json.read? text.toList).bind ofJson? with
  | none => .error .malformedJson
  | some w => .ok w

end Workflow

end Flowscript
