import Flowscript.Run.Bus
import Flowscript.Run.Walk
import Flowscript.Workflow.Catalog

/-!
# The engine

An engine holds workflows and collaborators under their names and runs the workflows. A run starts
from a copy of the workflow's variables, so runs do not see each other; what they leave behind is
the calls they made and the events they published.
-/

namespace Flowscript

/-- Workflows, collaborators, limits, the bus if events are published, and all calls made so
far. -/
structure Engine where
  workflows : Registry Workflow
  collaborators : Collaborators
  limits : Limits
  bus : Option Bus
  journal : Array Call

/-- What a run that went through has come to. -/
structure Report where
  run : RunId
  workflow : String
  status : RunStatus
  output : Object
  path : Array String
  vars : Object
  conditionErrors : Array ConditionError

/-- The report on the final state of a run. -/
def Report.ofState (run : RunId) (workflow : String) (s : RunState) : Report :=
  { run, workflow, status := s.status, output := s.output, path := s.path,
    vars := s.vars, conditionErrors := s.conditionErrors }

namespace Engine

/-- An engine without workflows. -/
def new (limits : Limits) (collaborators : Collaborators) (bus : Option Bus) : Engine :=
  { workflows := ∅, collaborators, limits, bus, journal := #[] }

/-- Publishes an event, if there is a bus. -/
def publish (engine : Engine) (e : Event) : Engine :=
  { engine with bus := engine.bus.map (·.publish e) }

/-- Registers a workflow under its name, in place of an earlier one. -/
def register (engine : Engine) (w : Workflow) : Engine :=
  { engine with workflows := engine.workflows.insert w.name w }

/-- Reads a text as a workflow and registers it. -/
def registerText (engine : Engine) (text : String) : Except Failure Workflow × Engine :=
  match Workflow.read text with
  | .error cause => (.error cause, engine)
  | .ok w => (.ok w, engine.register w)

/-- The workflow of a name. -/
def find (engine : Engine) (name : String) : Except Failure Workflow :=
  match engine.workflows.get? name with
  | none => .error (.workflowNotFound name)
  | some w => .ok w

/-- Registers an agent. -/
def registerAgent (engine : Engine) (name : String) (agent : Agent) : Engine :=
  { engine with
    collaborators.agents := engine.collaborators.agents.insert name agent }

/-- Registers a function. -/
def registerFunction (engine : Engine) (name : String) (function : NamedFunction) : Engine :=
  { engine with
    collaborators.functions := engine.collaborators.functions.insert name function }

/-- Sets the prompt executor. -/
def setPrompt (engine : Engine) (executor : PromptExecutor) : Engine :=
  { engine with collaborators.prompt := some executor }

/-- Removes an agent, and whether there was one. -/
def unregisterAgent (engine : Engine) (name : String) : Bool × Engine :=
  let (removed, agents) := engine.collaborators.agents.unregister name
  (removed, { engine with collaborators.agents := agents })

/-- Removes a function, and whether there was one. -/
def unregisterFunction (engine : Engine) (name : String) : Bool × Engine :=
  let (removed, functions) := engine.collaborators.functions.unregister name
  (removed, { engine with collaborators.functions := functions })

/-- How a run of a workflow ends. -/
def outcome (engine : Engine) (run : RunId) (w : Workflow) (input : Object) : Outcome Unit :=
  let setup : Setup :=
    { workflow := w, collaborators := engine.collaborators, limits := engine.limits, run }
  setup.execute (.start (.fresh input w.vars) engine.journal)

/-- The event that ends a run. -/
def finalEvent (run : RunId) (workflow : String) : Outcome Unit → Event
  | .ok _ p => .runCompleted run workflow p.state.path.size
  | .stopped cause _ => .runFailed run workflow cause.message

/-- The events of a whole run. -/
def runEvents (run : RunId) (workflow : String) (o : Outcome Unit) : List Event :=
  .runStarted run workflow :: o.progress.events.toList ++ [finalEvent run workflow o]

/-- Runs a workflow. -/
def runWorkflow (engine : Engine) (run : RunId) (w : Workflow) (input : Object) :
    Except Failure Report × Engine :=
  let o := engine.outcome run w input
  let after := (runEvents run w.name o).foldl publish { engine with journal := o.progress.calls }
  match o with
  | .ok _ p => (.ok (.ofState run w.name p.state), after)
  | .stopped cause _ => (.error cause, after)

/-- Runs the workflow of a name. -/
def run (engine : Engine) (id : RunId) (name : String) (input : Object) :
    Except Failure Report × Engine :=
  match engine.find name with
  | .error cause => (.error cause, engine)
  | .ok w => engine.runWorkflow id w input

/-- Registers the workflow of a JSON text and runs it. -/
def runDefinition (engine : Engine) (id : RunId) (definition : String) (input : Object) :
    Except Failure Report × Engine :=
  match Workflow.readJson definition with
  | .error cause => (.error cause, engine)
  | .ok w => (engine.register w).run id w.name input

/-- The catalog of the workflow of a name. -/
def catalog (engine : Engine) (name : String) : Except Failure Catalog :=
  (engine.find name).map Workflow.catalog

/-- Registers the workflows of some texts in order, up to the first text that is none. The names of
the workflows are returned; a text that could not be obtained stands for its failure. -/
def registerAll (engine : Engine) : List (Except Failure String) →
    Except Failure (List String) × Engine
  | [] => (.ok [], engine)
  | .error cause :: _ => (.error cause, engine)
  | .ok text :: more =>
    match engine.registerText text with
    | (.error cause, engine) => (.error cause, engine)
    | (.ok w, engine) =>
      match registerAll engine more with
      | (.error cause, engine) => (.error cause, engine)
      | (.ok names, engine) => (.ok (w.name :: names), engine)

end Engine

end Flowscript
