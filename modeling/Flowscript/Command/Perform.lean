import Flowscript.Command.Arguments
import Flowscript.Loading
import Flowscript.Run.Json
import Flowscript.Run.Script
import Flowscript.Settings

/-!
# Performing commands

What the program answers to its arguments. Workflows run with collaborators that answer with their
input, so a workflow can be tried out before its collaborators exist.
-/

namespace Flowscript

/-- A report as a JSON tree, with the times at which the run started and ended. -/
def Report.toJson (r : Report) (started finished : String) : Json :=
  .record [("run_id", .text r.run.text), ("workflow", .text r.workflow),
    ("status", r.status.toJson), ("output", Object.toJson r.output),
    ("execution_path", .array (r.path.toList.map Json.text)),
    ("variables", Object.toJson r.vars),
    ("condition_errors", .array (r.conditionErrors.toList.map ConditionError.toJson)),
    ("started_at", .text started), ("finished_at", .text finished)]

namespace Command

/-- What the program answers: its exit code, its output, and the text of an error. -/
structure Response where
  exit : Nat
  output : String
  error : Option String

namespace Response

/-- The answer with some lines of output. -/
def success (lines : List String) : Response :=
  { exit := 0, output := String.join (lines.map (· ++ "\n")), error := none }

/-- The answer with an error. -/
def failure (message : String) : Response :=
  { exit := 1, output := "", error := some message }

/-- The answer that comes of a computation. -/
def ofResult {α : Type} (lines : α → List String) : Except Failure α → Response
  | .error e => failure e.message
  | .ok a => success (lines a)

end Response

/-- How the program is called. -/
def usage : String :=
  "Usage: agentflow [-c FILE] parse FILE | run TARGET [-i JSON] [--trace] | export FILE | " ++
    "list | config"

/-- The name and version of the program. -/
def version : String := "agentflow 0.3.1"

/-- The object in the text of an input, or the message for another text. -/
def inputObject (text : String) : Except String Object :=
  match Value.read? text.toList with
  | none => .error "--input must be JSON"
  | some (.object input) => .ok input
  | some v => .error ("--input must be a JSON object, got " ++ v.typeName)

/-- The engine that workflows are tried out with. -/
def trialEngine (limits : Limits) : Engine :=
  .new limits .echo (some (.new Bus.defaultCapacity))

/-- The directory that the paths in the settings start from. -/
def baseOf (settingsPath : String) : String :=
  (Path.parent? settingsPath).getD "."

variable {m : Type → Type} [Monad m]

/-- The answer to the text of a file. -/
def onFile (host : Host m) (file : String) (answer : String → Response) : m Response := do
  match ← host.text file with
  | .error _ => return .failure ("reading " ++ file)
  | .ok text => return answer text

/-- The answer with the workflow in a text. -/
def describe (text : String) : Response :=
  .ofResult (fun w => [w.toJson.toPrettyText]) (Workflow.read text)

/-- The answer with the catalog of the workflow in a text. -/
def catalog (text : String) : Response :=
  .ofResult (fun w => [w.catalog.toJson.toPrettyText]) (Workflow.read text)

/-- Runs the workflow of a name. -/
def runNamed (host : Host m) (engine : Engine) (name : String) (input : Object) (trace : Bool) :
    m Response := do
  let run ← host.newRun
  let started ← host.time
  let (result, _) := engine.run run name input
  let finished ← host.time
  return .ofResult (fun r =>
    let tree := if trace then r.toJson started finished else Object.toJson r.output
    [tree.toPrettyText]) result

/-- Runs the workflow in a file. -/
def runFile (host : Host m) (engine : Engine) (file : String) (input : Object) (trace : Bool) :
    m Response := do
  match ← host.text file with
  | .error _ => return .failure ("reading " ++ file)
  | .ok text =>
    match engine.registerText text with
    | (.error e, _) => return .failure e.message
    | (.ok w, engine) => runNamed host engine w.name input trace

/-- Runs the workflow in the file `target`, or the workflow of that name in the directory of
workflows. -/
def run (host : Host m) (settings : Settings) (base target : String) (input : Object)
    (trace : Bool) : m Response := do
  let engine := trialEngine settings.limits
  if ← host.isFile target then
    runFile host engine target input trace
  else
    let directory := settings.workflowsDirectory base
    if ← host.isDirectory directory then
      match ← engine.loadDirectory host directory settings.extension with
      | (.error e, _) => return .failure e.message
      | (.ok _, engine) => runNamed host engine target input trace
    else return .failure (target ++ " is not a file and " ++ directory ++ " is not a directory")

/-- Lists the workflows in the directory of workflows. -/
def list (host : Host m) (settings : Settings) (base : String) : m Response := do
  let engine := trialEngine settings.limits
  let directory := settings.workflowsDirectory base
  if ← host.isDirectory directory then
    match ← engine.loadDirectory host directory settings.extension with
    | (.error e, _) => return .failure e.message
    | (.ok _, engine) => return .success engine.workflows.names
  else return .success []

/-- Performs an action. -/
def perform (host : Host m) (settings : Settings) (base : String) : Action → m Response
  | .parse file => onFile host file describe
  | .catalog file => onFile host file catalog
  | .run target input trace =>
    match inputObject input with
    | .error message => return .failure message
    | .ok input => run host settings base target input trace
  | .list => list host settings base
  | .config => return .success [settings.toText]

/-- The answer of the program to its arguments. -/
def respond (host : Host m) (args : List String) : m Response := do
  match invocation args with
  | .error .usage => return { exit := 2, output := "", error := some usage }
  | .error .help => return .success [usage]
  | .error .version => return .success [version]
  | .ok { settings := path, action } =>
    match ← Settings.loadOrStandard host path with
    | .error _ => return .failure ("loading " ++ path)
    | .ok settings => perform host settings (baseOf path) action

end Command

end Flowscript
