import Flowscript.Failure
import Flowscript.Files.Host
import Flowscript.Run.Setup
import Flowscript.Toml.Document
import Flowscript.Toml.Writer

/-!
# Settings

The settings of the program: the limits of runs, the filter of its log, and where workflows are
found. They are read from a TOML text, in which references to environment variables are replaced
first, and everything that is left out has a standard value.
-/

namespace Flowscript

/-- The settings of the program. -/
structure Settings where
  limits : Limits
  filter : String
  directory : String
  extension : String
  deriving DecidableEq, Repr

namespace Settings

/-- The standard settings. -/
def standard : Settings :=
  { limits := .standard
    filter := "agentflow=info,warn"
    directory := "workflows"
    extension := "flow" }

/-- A piece of text with references to variables. -/
inductive Piece where
  | char (c : Char)
  | reference (name : List Char)

/-- The pieces of a text. A reference is written `${name}`; without a closing brace its name runs to
the end of the text. -/
def pieces (cs : List Char) : List Piece :=
  match cs with
  | [] => []
  | '$' :: '{' :: rest =>
    .reference (rest.takeWhile (· ≠ '}')) :: pieces ((rest.dropWhile (· ≠ '}')).drop 1)
  | c :: rest => .char c :: pieces rest
termination_by cs.length
decreasing_by
  · have := (List.dropWhile_sublist (fun c => decide (c ≠ '}')) (l := rest)).length_le
    simp only [List.length_drop, List.length_cons]
    omega
  · simp

/-- The text of a piece. A reference to a variable that is not set is written out. -/
def Piece.text (env : Dict String) : Piece → List Char
  | char c => [c]
  | reference name =>
    match env.get? (String.ofList name) with
    | some value => value.toList
    | none => '$' :: '{' :: name ++ ['}']

/-- Text with its references replaced by the values of variables. -/
def expand (env : Dict String) (cs : List Char) : List Char :=
  (pieces cs).flatMap (Piece.text env)

/-- The names of the variables that a text refers to. -/
def references (cs : List Char) : List String :=
  (pieces cs).filterMap fun piece => match piece with
    | .char _ => none
    | .reference name => some (String.ofList name)

/-- The fields of a section. A section is a table, or an array of its values in order of the fields;
in a time there is no field. -/
def fields? (names : List String) : Toml.Item → Option (List (Option Toml.Item))
  | .table _ entries => some (names.map entries.get?)
  | .array items => some ((List.range names.length).map fun i => items[i]?)
  | .datetime _ => some (names.map fun _ => none)
  | _ => none

/-- The fields of a section of the document; a missing section has none of them. -/
def section? (t : Toml.Table) (key : String) (names : List String) :
    Option (List (Option Toml.Item)) :=
  match t.get? key with
  | none => some (names.map fun _ => none)
  | some item => fields? names item

/-- The number in a field. -/
def number? (default : Nat) : Option Toml.Item → Option Nat
  | none => some default
  | some (.integer i) => if 0 ≤ i.toInt then some i.toInt.toNat else none
  | some _ => none

/-- The text in a field. -/
def text? (default : String) : Option Toml.Item → Option String
  | none => some default
  | some (.string s) => some s
  | some _ => none

/-- The limits of a document. -/
def limits? (t : Toml.Table) : Option Limits :=
  let names := ["max_node_visits", "max_visits_per_node", "collaborator_timeout_secs"]
  match section? t "engine" names with
  | some [maxVisits, maxVisitsPerNode, timeout] => do
    let maxVisits ← number? Limits.standard.maxVisits maxVisits
    let maxVisitsPerNode ← number? Limits.standard.maxVisitsPerNode maxVisitsPerNode
    let timeout ← number? Limits.standard.timeout timeout
    some { maxVisits, maxVisitsPerNode, timeout }
  | _ => none

/-- The settings of a document. -/
def ofTable? (t : Toml.Table) : Option Settings :=
  match section? t "log" ["filter"], section? t "workflows" ["dir", "extension"] with
  | some [filter], some [directory, extension] => do
    let limits ← limits? t
    let filter ← text? standard.filter filter
    let directory ← text? standard.directory directory
    let extension ← text? standard.extension extension
    some { limits, filter, directory, extension }
  | _, _ => none

/-- Reads settings from a text. -/
def read (env : Dict String) (text : String) : Except Failure Settings :=
  match (Toml.read? (String.ofList (expand env text.toList))).bind ofTable? with
  | none => .error (.config "malformed settings")
  | some s => .ok s

/-- The text of settings. -/
def toText (s : Settings) : String :=
  String.ofList (
    Toml.headerLine "engine" ++
    Toml.numberLine "max_node_visits" s.limits.maxVisits ++
    Toml.numberLine "max_visits_per_node" s.limits.maxVisitsPerNode ++
    Toml.numberLine "collaborator_timeout_secs" s.limits.timeout ++ ['\n'] ++
    Toml.headerLine "log" ++
    Toml.textLine "filter" s.filter ++ ['\n'] ++
    Toml.headerLine "workflows" ++
    Toml.textLine "dir" s.directory ++
    Toml.textLine "extension" s.extension)

/-- The directory of workflows, which stands in `base` unless its path is absolute. -/
def workflowsDirectory (s : Settings) (base : String) : String :=
  Path.join base s.directory

variable {m : Type → Type} [Monad m]

/-- Reads settings from a text on a host, which has the variables that the text refers to. -/
def readOn (host : Host m) (text : String) : m (Except Failure Settings) := do
  return read (← host.environment (references text.toList)) text

/-- Reads settings from a file. -/
def load (host : Host m) (path : String) : m (Except Failure Settings) := do
  match ← host.text path with
  | .error _ => return .error (.configNotFound path)
  | .ok text => readOn host text

/-- Reads settings from a file; where there is none the settings are the standard ones. -/
def loadOrStandard (host : Host m) (path : String) : m (Except Failure Settings) := do
  match ← host.kind? path with
  | none => return .ok standard
  | some _ => load host path

end Settings

end Flowscript
