import Flowscript.Text.Lowercase
import Flowscript.Workflow.Json
import Flowscript.Workflow.Reader

/-!
# Catalogs

A catalog lists what a workflow offers to be called from elsewhere: each of its prompts, and the
workflow itself together with its definition. Entries stand under keys made of the names in lower
case, so of two prompts whose names differ only in case the later one is listed.
-/

namespace Flowscript

/-- How to call something that a workflow offers. -/
structure CatalogEntry where
  description : String
  home : String
  function : String
  parameters : Dict String

/-- The entries of a workflow under their keys. -/
abbrev Catalog := Dict CatalogEntry

namespace CatalogEntry

/-- A name in lower case with underscores for spaces. -/
def slug (name : String) : String :=
  String.ofList ((Text.toLower name.toList).map fun c => if c = ' ' then '_' else c)

/-- The key of a prompt. -/
def promptKey (name : String) : String :=
  "urfn_prompt_" ++ slug name

/-- The key of a workflow. -/
def workflowKey (name : String) : String :=
  "urfn_workflow_" ++ slug name

/-- The entry of a prompt node. -/
def ofPrompt (n : Node) : CatalogEntry :=
  { description := "Prompt template for " ++ n.name
    home := "agent_dsl.prompts"
    function := "execute_prompt"
    parameters := .ofList [("system_template", n.param "system" ""),
      ("user_template", n.param "user" ""), ("variables", "\x7b\x7d")] }

/-- The entry of a workflow. -/
def ofWorkflow (w : Workflow) : CatalogEntry :=
  { description := "Workflow: " ++ w.name
    home := "agent_dsl.workflows"
    function := "execute_workflow"
    parameters := .ofList [("input", "\x7b\x7d"), ("workflow_def", w.toJsonText)] }

/-- An entry as a JSON tree. -/
def toJson (e : CatalogEntry) : Json :=
  .record [("description", .text e.description), ("module", .text e.home),
    ("function", .text e.function), ("parameters", textsToJson e.parameters)]

/-- The entry that a JSON tree denotes. -/
def ofJson? (j : Json) : Option CatalogEntry :=
  match j.fields? ["description", "module", "function", "parameters"] with
  | some [some description, some home, some function, some parameters] => do
    let description ← description.text?
    let home ← home.text?
    let function ← function.text?
    let parameters ← Json.dict? Json.text? parameters
    some { description, home, function, parameters }
  | _ => none

end CatalogEntry

namespace Workflow

/-- The prompt nodes, in order of definition. -/
def prompts (w : Workflow) : List Node :=
  w.nodes.filter fun n => n.kind = .prompt

/-- The catalog of a workflow. -/
def catalog (w : Workflow) : Catalog :=
  Dict.ofList (w.prompts.map (fun n => (CatalogEntry.promptKey n.name, CatalogEntry.ofPrompt n)) ++
    [(CatalogEntry.workflowKey w.name, CatalogEntry.ofWorkflow w)])

end Workflow

/-- A catalog as a JSON tree. -/
def Catalog.toJson (c : Catalog) : Json :=
  .record (c.entries.map fun (key, e) => (key, e.toJson))

end Flowscript
