import Flowscript.Run.Event
import Flowscript.Run.State
import Flowscript.Run.Collaborator
import Flowscript.Value.Forms

/-!
# Runs as JSON

Statuses and events are written as records whose first field is a tag for their kind. When one is
read, the tag may stand anywhere, or first in an array of the fields. Unlike in a plain record, the
members that are no fields have to be values too.
-/

namespace Flowscript

namespace Json

/-- The tag of a tree and what remains without it. -/
def tagged? (tag : String) (j : Json) : Option (String × Json) :=
  if (Value.ofJson? Value.depthLimit j).isNone then none
  else
    match j with
    | .object members =>
      match field? members tag with
      | some (some word) =>
        word.text?.map fun word => (word, .object (members.filter fun m => m.1 != some tag))
      | _ => none
    | .array (word :: items) => word.text?.map fun word => (word, .array items)
    | _ => none

/-- Whether nothing but a tag is needed of a tree. -/
def isBare : Json → Bool
  | .object _ | .array [] => true
  | _ => false

/-- The texts of fields that are all texts. -/
def texts? (names : List String) (j : Json) : Option (List String) :=
  (j.fields? names).bind fun fields => fields.mapM fun field => field.bind Json.text?

end Json

/-- The kind of a collaborator that a JSON tree names. -/
def CollaboratorKind.ofJson? (j : Json) : Option CollaboratorKind :=
  j.name?.bind CollaboratorKind.ofWord?

namespace RunStatus

/-- A status as a JSON tree. -/
def toJson : RunStatus → Json
  | notStarted => .record [("state", .text "not_started")]
  | running node => .record [("state", .text "running"), ("current_node", .text node)]
  | completed => .record [("state", .text "completed")]
  | failed error => .record [("state", .text "failed"), ("error", .text error)]

/-- The status with a tag and further fields. -/
def ofTagged? (tag : String) (rest : Json) : Option RunStatus :=
  match tag with
  | "not_started" => if rest.isBare then some notStarted else none
  | "running" =>
    match rest.texts? ["current_node"] with
    | some [node] => some (running node)
    | _ => none
  | "completed" => if rest.isBare then some completed else none
  | "failed" =>
    match rest.texts? ["error"] with
    | some [error] => some (failed error)
    | _ => none
  | _ => none

/-- The status that a JSON tree denotes. -/
def ofJson? (j : Json) : Option RunStatus :=
  (j.tagged? "state").bind fun (tag, rest) => ofTagged? tag rest

end RunStatus

namespace ConditionError

/-- A condition error as a JSON tree. -/
def toJson (e : ConditionError) : Json :=
  .record [("node", .text e.node), ("expression", .text e.expression), ("message", .text e.message)]

/-- The condition error that a JSON tree denotes. -/
def ofJson? (j : Json) : Option ConditionError :=
  match j.texts? ["node", "expression", "message"] with
  | some [node, expression, message] => some { node, expression, message }
  | _ => none

end ConditionError

namespace Trace

/-- A trace as a JSON tree. -/
def toJson (t : Trace) : Json :=
  .record [("execution_path", .array (t.path.toList.map Json.text)),
    ("partial_output", Object.toJson t.partialOutput)]

/-- The trace that a JSON tree denotes. The tree is itself one of the nested containers. -/
def ofJson? (j : Json) : Option Trace :=
  match j.fields? ["execution_path", "partial_output"] with
  | some [some path, some output] => do
    let path ← Json.list? Json.text? path
    let partialOutput ← Object.decode? (Value.depthLimit - 1) output
    some { path := path.toArray, partialOutput }
  | _ => none

end Trace

namespace Event

/-- An event as a JSON tree. -/
def toJson : Event → Json
  | runStarted run workflow =>
    .record [("type", .text "run_started"), ("run_id", .text run.text),
      ("workflow", .text workflow)]
  | nodeStarted run workflow node kind =>
    .record [("type", .text "node_started"), ("run_id", .text run.text),
      ("workflow", .text workflow), ("node", .text node), ("kind", .text kind)]
  | nodeCompleted run workflow node =>
    .record [("type", .text "node_completed"), ("run_id", .text run.text),
      ("workflow", .text workflow), ("node", .text node)]
  | conditionFailed run workflow node expression error =>
    .record [("type", .text "condition_failed"), ("run_id", .text run.text),
      ("workflow", .text workflow), ("node", .text node), ("expression", .text expression),
      ("error", .text error)]
  | runCompleted run workflow visited =>
    .record [("type", .text "run_completed"), ("run_id", .text run.text),
      ("workflow", .text workflow), ("visited", .int visited)]
  | runFailed run workflow error =>
    .record [("type", .text "run_failed"), ("run_id", .text run.text),
      ("workflow", .text workflow), ("error", .text error)]

/-- The end of a run that a JSON tree without its tag denotes. -/
def runCompletedOfJson? (j : Json) : Option Event :=
  match j.fields? ["run_id", "workflow", "visited"] with
  | some [some run, some workflow, some visited] => do
    let run ← run.text?
    let workflow ← workflow.text?
    let visited ← Json.natBelow? UInt64.size visited
    some (runCompleted ⟨run⟩ workflow visited)
  | _ => none

/-- The event with a tag and further fields. -/
def ofTagged? (tag : String) (rest : Json) : Option Event :=
  match tag with
  | "run_started" =>
    match rest.texts? ["run_id", "workflow"] with
    | some [run, workflow] => some (runStarted ⟨run⟩ workflow)
    | _ => none
  | "node_started" =>
    match rest.texts? ["run_id", "workflow", "node", "kind"] with
    | some [run, workflow, node, kind] => some (nodeStarted ⟨run⟩ workflow node kind)
    | _ => none
  | "node_completed" =>
    match rest.texts? ["run_id", "workflow", "node"] with
    | some [run, workflow, node] => some (nodeCompleted ⟨run⟩ workflow node)
    | _ => none
  | "condition_failed" =>
    match rest.texts? ["run_id", "workflow", "node", "expression", "error"] with
    | some [run, workflow, node, expression, error] =>
      some (conditionFailed ⟨run⟩ workflow node expression error)
    | _ => none
  | "run_completed" => runCompletedOfJson? rest
  | "run_failed" =>
    match rest.texts? ["run_id", "workflow", "error"] with
    | some [run, workflow, error] => some (runFailed ⟨run⟩ workflow error)
    | _ => none
  | _ => none

/-- The event that a JSON tree denotes. -/
def ofJson? (j : Json) : Option Event :=
  (j.tagged? "type").bind fun (tag, rest) => ofTagged? tag rest

end Event

/-- The single that a JSON number denotes. An integer of 64 bits is rounded once; every other
numeral is rounded to a double first. -/
def Json.single? : Json → Option Float32
  | .number literal =>
    match Json.integer? literal with
    | some i =>
      if Int64.minValue.toInt ≤ i ∧ i < UInt64.size then Numeral.readFloat32? literal.toList
      else (Json.float? literal).map Float.toFloat32
    | none => (Json.float? literal).map Float.toFloat32
  | _ => none

namespace PromptRequest

/-- A request as a JSON tree. What is absent is left out. -/
def toJson (r : PromptRequest) : Json :=
  .record ([("node", .text r.node), ("system", .text r.system), ("user", .text r.user)] ++
    (r.model.map fun s => ("model", Json.text s)).toList ++
    (r.temperature.map fun x => ("temperature", Json.single x)).toList ++
    (r.maxTokens.map fun n => ("max_tokens", Json.int n.toNat)).toList)

/-- The request that a JSON tree denotes. -/
def ofJson? (j : Json) : Option PromptRequest :=
  match j.fields? ["node", "system", "user", "model", "temperature", "max_tokens"] with
  | some [some node, some system, some user, model, temperature, maxTokens] => do
    let node ← node.text?
    let system ← system.text?
    let user ← user.text?
    let model ← Json.optional? Json.text? model
    let temperature ← Json.optional? Json.single? temperature
    let maxTokens ← Json.optional? (Json.natBelow? UInt32.size) maxTokens
    some { node, system, user, model, temperature, maxTokens := maxTokens.map UInt32.ofNat }
  | _ => none

end PromptRequest

end Flowscript
