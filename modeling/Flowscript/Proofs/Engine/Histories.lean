import Flowscript.Proofs.Dict
import Flowscript.Proofs.Engine.Publishing
import Flowscript.Proofs.Walk.Replaying
import Flowscript.Run.Script

/-!
# What an engine holds after a history of operations

A workflow is found under its name from the last operation that registers one of this name: a text
or a definition that is read, or a workflow that is given. A collaborator is found if the last
operation on its name registers it. Runs and refused texts leave both alone, so a run is repeated as
long as nothing of what it reads is registered anew. The main statement is `reflects_afterAll`.
-/

namespace Flowscript

/-- The report, made by another run. -/
def Report.withRun (r : Report) (id : RunId) : Report :=
  { r with run := id }

namespace Registry

@[simp] theorem get?_unregister {α : Type} (r : Registry α) (name k : String) :
    (r.unregister name).2.get? k = if k = name then none else r.get? k := by
  simp [get?, unregister]

/-- A change to a registry: an entry is put under a name, or what is there is removed. -/
structure Change (α : Type) where
  name : String
  entry : Option α

namespace Change

variable {α : Type} {change? : Option (Change α)}

/-- A registry after a change. -/
def apply (change : Change α) (r : Registry α) : Registry α :=
  match change.entry with
  | some entry => r.insert change.name entry
  | none => (r.unregister change.name).2

/-- What a change puts in the place of a name, if it does: an entry, or none. -/
def put? (change : Change α) (name : String) : Option (Option α) :=
  if change.name = name then some change.entry else none

theorem get?_apply (change : Change α) (r : Registry α) (name : String) :
    (change.apply r).get? name = (change.put? name).getD (r.get? name) := by
  obtain ⟨callee, entry⟩ := change
  cases entry with
  | none =>
    simp only [apply, put?, get?_unregister, @eq_comm _ name]
    split <;> rfl
  | some entry =>
    simp only [apply, put?, get?_insert, @eq_comm _ name]
    split <;> rfl

/-- If there is a change, the registry has it. -/
theorem get?_elim_apply (change? : Option (Change α)) (r : Registry α) (name : String) :
    (change?.elim r (·.apply r)).get? name =
      (change?.bind (·.put? name)).getD (r.get? name) := by
  cases change? with
  | none => rfl
  | some change => exact change.get?_apply r name

/-- Every change is noticed under its own name. -/
theorem eq_none_of_bind_put? (h : ∀ name, change?.bind (·.put? name) = none) :
    change? = none := by
  cases change? with
  | none => rfl
  | some change =>
    have hname : change.put? change.name = none := h change.name
    simp [put?] at hname

end Change

end Registry

/-- An operation on an engine. -/
inductive Operation where
  | parse (text : String)
  | register (w : Workflow)
  | runDefinition (id : RunId) (definition : String) (input : Object)
  | registerAgent (name : String) (agent : Agent)
  | registerFunction (name : String) (function : NamedFunction)
  | unregisterAgent (name : String)
  | unregisterFunction (name : String)
  | setPrompt (executor : PromptExecutor)
  | run (id : RunId) (name : String) (input : Object)
  | catalog (name : String)
  | find (name : String)
  | names

namespace Operation

/-- The workflow that an operation registers. A text or a definition that is refused is none. -/
def registered? : Operation → Option Workflow
  | parse text => (Workflow.read text).toOption
  | register w => some w
  | runDefinition _ definition _ => (Workflow.readJson definition).toOption
  | _ => none

/-- The workflow of a name that an operation registers. -/
def workflow? (op : Operation) (name : String) : Option Workflow :=
  op.registered?.filter fun w => w.name = name

/-- What an operation does to the agents. -/
def agentChange? : Operation → Option (Registry.Change Agent)
  | registerAgent name agent => some ⟨name, some agent⟩
  | unregisterAgent name => some ⟨name, none⟩
  | _ => none

/-- What an operation does to the functions. -/
def functionChange? : Operation → Option (Registry.Change NamedFunction)
  | registerFunction name function => some ⟨name, some function⟩
  | unregisterFunction name => some ⟨name, none⟩
  | _ => none

/-- What an operation puts in the place of the agent of a name, if it does: an agent, or none. -/
def agent? (op : Operation) (name : String) : Option (Option Agent) :=
  op.agentChange?.bind (·.put? name)

/-- What an operation puts in the place of the function of a name, if it does. -/
def function? (op : Operation) (name : String) : Option (Option NamedFunction) :=
  op.functionChange?.bind (·.put? name)

/-- The prompt executor that an operation sets. -/
def prompt? : Operation → Option PromptExecutor
  | setPrompt executor => some executor
  | _ => none

/-- The last of what some operations make of something. -/
def last? {α : Type} (part : Operation → Option α) (ops : List Operation) : Option α :=
  ops.reverse.findSome? part

theorem last?_concat {α : Type} (part : Operation → Option α) (ops : List Operation)
    (op : Operation) : last? part (ops ++ [op]) = (part op).or (last? part ops) := by
  rw [last?, List.reverse_concat, List.findSome?_cons]
  cases part op <;> rfl

/-- What an operation makes of collaborators. -/
def change (op : Operation) (c : Collaborators) : Collaborators :=
  { agents := op.agentChange?.elim c.agents (·.apply c.agents)
    functions := op.functionChange?.elim c.functions (·.apply c.functions)
    prompt := op.prompt?.or c.prompt }

/-- An operation that changes neither the workflow of a name nor any collaborator. -/
structure Spares (op : Operation) (name : String) : Prop where
  workflow : op.workflow? name = none
  agent : ∀ callee, op.agent? callee = none
  function : ∀ callee, op.function? callee = none
  prompt : op.prompt? = none

end Operation

namespace Engine

/-- An engine after an operation. -/
def after (engine : Engine) : Operation → Engine
  | .parse text => (engine.registerText text).2
  | .register w => engine.register w
  | .runDefinition id definition input => (engine.runDefinition id definition input).2
  | .registerAgent name agent => engine.registerAgent name agent
  | .registerFunction name function => engine.registerFunction name function
  | .unregisterAgent name => (engine.unregisterAgent name).2
  | .unregisterFunction name => (engine.unregisterFunction name).2
  | .setPrompt executor => engine.setPrompt executor
  | .run id name input => (engine.run id name input).2
  | .catalog _ | .find _ | .names => engine

/-- An engine after some operations, one after the other. -/
def afterAll (engine : Engine) (ops : List Operation) : Engine :=
  ops.foldl after engine

theorem afterAll_concat (engine : Engine) (ops : List Operation) (op : Operation) :
    engine.afterAll (ops ++ [op]) = (engine.afterAll ops).after op :=
  List.foldl_append

/-- Engines that hold the same: workflows, collaborators and limits. -/
structure Agrees (engine other : Engine) : Prop where
  workflows : other.workflows = engine.workflows
  collaborators : other.collaborators = engine.collaborators
  limits : other.limits = engine.limits

variable {engine : Engine}

/-! ## What runs leave alone -/

theorem agrees_foldl_publish (engine : Engine) (events : List Event) :
    engine.Agrees (events.foldl publish engine) := by
  induction events generalizing engine with
  | nil => exact ⟨rfl, rfl, rfl⟩
  | cons e events ih =>
    obtain ⟨hworkflows, hcollaborators, hlimits⟩ := ih (engine.publish e)
    exact ⟨hworkflows, hcollaborators, hlimits⟩

theorem agrees_run (engine : Engine) (id : RunId) (name : String) (input : Object) :
    engine.Agrees (engine.run id name input).2 := by
  cases hfind : engine.find name with
  | error cause =>
    simp only [run, hfind]
    exact ⟨rfl, rfl, rfl⟩
  | ok w =>
    rw [run_of_find hfind]
    obtain ⟨hworkflows, hcollaborators, hlimits⟩ := agrees_foldl_publish
      { engine with journal := (engine.outcome id w input).progress.calls }
      (runEvents id w.name (engine.outcome id w input))
    exact ⟨hworkflows, hcollaborators, hlimits⟩

/-- A definition is registered before it is run, and stays however the run ends. -/
theorem agrees_runDefinition {definition : String} {w : Workflow}
    (hread : Workflow.readJson definition = .ok w) (engine : Engine) (id : RunId)
    (input : Object) :
    (engine.register w).Agrees (engine.runDefinition id definition input).2 := by
  simp only [runDefinition, hread]
  exact agrees_run _ id w.name input

theorem runDefinition_of_error {definition : String} {cause : Failure}
    (hread : Workflow.readJson definition = .error cause) (engine : Engine) (id : RunId)
    (input : Object) : engine.runDefinition id definition input = (.error cause, engine) := by
  simp only [runDefinition, hread]

/-! ## What one operation changes -/

/-- What an operation comes to, apart from calls and events. -/
structure Stores (engine : Engine) (op : Operation) (after : Engine) : Prop where
  workflows : after.workflows =
    op.registered?.elim engine.workflows fun w => engine.workflows.insert w.name w
  collaborators : after.collaborators = op.change engine.collaborators
  limits : after.limits = engine.limits

theorem stores_after (engine : Engine) (op : Operation) : engine.Stores op (engine.after op) := by
  cases op with
  | parse text =>
    simp only [after, registerText]
    cases hread : Workflow.read text <;> constructor <;>
      simp only [Operation.registered?, hread] <;> rfl
  | runDefinition id definition input =>
    cases hread : Workflow.readJson definition with
    | error cause =>
      rw [after, runDefinition_of_error hread]
      constructor <;> simp only [Operation.registered?, hread] <;> rfl
    | ok w =>
      obtain ⟨hworkflows, hcollaborators, hlimits⟩ := agrees_runDefinition hread engine id input
      refine ⟨?_, hcollaborators, hlimits⟩
      simp only [Operation.registered?, hread]
      exact hworkflows
  | run id name input =>
    obtain ⟨hworkflows, hcollaborators, hlimits⟩ := agrees_run engine id name input
    exact ⟨hworkflows, hcollaborators, hlimits⟩
  | register | registerAgent | registerFunction | unregisterAgent | unregisterFunction | setPrompt
  | catalog | find | names => exact ⟨rfl, rfl, rfl⟩

theorem get?_workflows_after (engine : Engine) (op : Operation) (name : String) :
    (engine.after op).workflows.get? name =
      (op.workflow? name).elim (engine.workflows.get? name) some := by
  rw [(stores_after engine op).workflows, Operation.workflow?]
  cases op.registered? with
  | none => rfl
  | some w =>
    rw [Option.elim_some, Registry.get?_insert, Option.filter_some]
    by_cases hname : w.name = name
    · simp [hname]
    · simp [hname, Ne.symm hname]

theorem find_eq (engine : Engine) (name : String) : engine.find name =
    (engine.workflows.get? name).elim (.error (.workflowNotFound name)) .ok := by
  unfold find
  cases engine.workflows.get? name <;> rfl

theorem find_after (engine : Engine) (op : Operation) (name : String) :
    (engine.after op).find name = (op.workflow? name).elim (engine.find name) .ok := by
  rw [find_eq, find_eq, get?_workflows_after]
  cases op.workflow? name <;> rfl

/-! ## What a history comes to -/

/-- What an engine holds that started without workflows, after some operations. -/
structure Reflects (collaborators : Collaborators) (ops : List Operation) (engine : Engine) :
    Prop where
  /-- The workflow of a name is the last that was registered under it. -/
  workflow : ∀ name, engine.find name =
    (Operation.last? (·.workflow? name) ops).elim (.error (.workflowNotFound name)) .ok
  /-- The agent of a name is there if the last operation on the name has registered it. -/
  agent : ∀ name, engine.collaborators.agents.get? name =
    (Operation.last? (·.agent? name) ops).getD (collaborators.agents.get? name)
  /-- And so is the function of a name. -/
  function : ∀ name, engine.collaborators.functions.get? name =
    (Operation.last? (·.function? name) ops).getD (collaborators.functions.get? name)
  prompt : engine.collaborators.prompt = (Operation.last? (·.prompt?) ops).or collaborators.prompt
  /-- The names stand in strictly ascending order. -/
  ascending : engine.workflows.names.Pairwise (· < ·)
  mem_names : ∀ name, name ∈ engine.workflows.names ↔ ∃ op ∈ ops, (op.workflow? name).isSome

theorem ascending_afterAll (h : engine.workflows.entries.Ascending) (ops : List Operation) :
    (engine.afterAll ops).workflows.entries.Ascending := by
  induction ops using List.reverseRecOn with
  | nil => exact h
  | append_singleton ops op ih =>
    rw [afterAll_concat, (stores_after _ op).workflows]
    cases op.registered? with
    | none => exact ih
    | some w => exact ih.insert w.name w

theorem getD_eq_elim {α : Type} (o : Option α) (d : α) : o.getD d = o.elim d id := by
  cases o <;> rfl

theorem or_eq_elim {α : Type} (o d : Option α) : o.or d = o.elim d some := by
  cases o <;> rfl

/-- If every operation replaces what is seen of an engine or leaves it, the last operation that
replaces it tells what is seen after all of them. -/
theorem afterAll_eq_last? {α β : Type} (view : Engine → β) (part : Operation → Option α)
    (make : α → β)
    (hafter : ∀ engine op, view (engine.after op) = (part op).elim (view engine) make)
    (engine : Engine) (ops : List Operation) :
    view (engine.afterAll ops) = (Operation.last? part ops).elim (view engine) make := by
  induction ops using List.reverseRecOn with
  | nil => rfl
  | append_singleton ops op ih =>
    rw [afterAll_concat, hafter, ih, Operation.last?_concat]
    cases part op <;> rfl

/-- A registry has under each name what the last operation on the name has put there. -/
theorem get?_afterAll {α : Type} (view : Engine → Registry α)
    (part : Operation → Option (Registry.Change α))
    (hafter : ∀ engine op,
      view (engine.after op) = (part op).elim (view engine) (·.apply (view engine)))
    (engine : Engine) (ops : List Operation) (name : String) :
    (view (engine.afterAll ops)).get? name =
      (Operation.last? (fun op => (part op).bind (·.put? name)) ops).getD
        ((view engine).get? name) := by
  have hseen (engine : Engine) (op : Operation) : (view (engine.after op)).get? name =
      ((part op).bind (·.put? name)).elim ((view engine).get? name) id := by
    rw [hafter, Registry.Change.get?_elim_apply, getD_eq_elim]
  rw [getD_eq_elim]
  exact afterAll_eq_last? (fun engine => (view engine).get? name) _ id hseen engine ops

theorem reflects_new (limits : Limits) (collaborators : Collaborators) (bus : Option Bus)
    (ops : List Operation) :
    Reflects collaborators ops ((new limits collaborators bus).afterAll ops) where
  workflow name :=
    afterAll_eq_last? (·.find name) _ _ (fun engine op => find_after engine op name) _ ops
  agent := get?_afterAll (·.collaborators.agents) _ (fun engine op =>
    congrArg Collaborators.agents (stores_after engine op).collaborators) _ ops
  function := get?_afterAll (·.collaborators.functions) _ (fun engine op =>
    congrArg Collaborators.functions (stores_after engine op).collaborators) _ ops
  prompt := by
    have hseen (engine : Engine) (op : Operation) : (engine.after op).collaborators.prompt =
        op.prompt?.elim engine.collaborators.prompt some := by
      rw [(stores_after engine op).collaborators, Operation.change, or_eq_elim]
    rw [or_eq_elim]
    exact afterAll_eq_last? (·.collaborators.prompt) _ some hseen _ ops
  ascending := ascending_afterAll Dict.ascending_empty ops
  mem_names name := by
    have hget := afterAll_eq_last? (·.workflows.get? name) (·.workflow? name) some
      (fun engine op => get?_workflows_after engine op name) (new limits collaborators bus) ops
    have hnone : (new limits collaborators bus).workflows.get? name = none := rfl
    rw [hnone, ← or_eq_elim, Option.or_none] at hget
    refine Dict.mem_keys_iff.trans ?_
    change (((new limits collaborators bus).afterAll ops).workflows.get? name).isSome ↔ _
    rw [hget, Operation.last?, List.findSome?_isSome_iff]
    simp only [List.mem_reverse]

/-! ## Repeated runs -/

variable {name : String}

theorem find_after_of_spares {op : Operation} (h : op.Spares name) :
    (engine.after op).find name = engine.find name := by
  rw [find_after, h.workflow, Option.elim_none]

theorem change_of_spares {op : Operation} (h : op.Spares name) (c : Collaborators) :
    op.change c = c := by
  rw [Operation.change, Registry.Change.eq_none_of_bind_put? h.agent,
    Registry.Change.eq_none_of_bind_put? h.function, h.prompt]
  rfl

/-- Whatever operations spare a name, a run of it finds what was there before them. -/
theorem spared_afterAll (engine : Engine) {ops : List Operation}
    (h : ∀ op ∈ ops, op.Spares name) :
    (engine.afterAll ops).find name = engine.find name ∧
      (engine.afterAll ops).collaborators = engine.collaborators ∧
      (engine.afterAll ops).limits = engine.limits := by
  induction ops generalizing engine with
  | nil => exact ⟨rfl, rfl, rfl⟩
  | cons op ops ih =>
    obtain ⟨hop, hops⟩ := List.forall_mem_cons.mp h
    obtain ⟨hfind, hcollaborators, hlimits⟩ := ih (engine.after op) hops
    have hstores := stores_after engine op
    refine ⟨hfind.trans (find_after_of_spares hop), hcollaborators.trans ?_,
      hlimits.trans hstores.limits⟩
    rw [hstores.collaborators, change_of_spares hop]

theorem result_of_matches {setup : Setup} {id : RunId} {earlier earlier' : Array Call}
    {o o' : Outcome Unit} (h : o.Matches (Again id earlier earlier') o') :
    (setup.withRun id).result o' = (setup.result o).map (·.withRun id) := by
  cases h with
  | stopped cause h => rfl
  | ok u h =>
    simp only [Setup.result, h.state]
    rfl

/-- A run that is repeated later on differs in its identifier alone. -/
theorem run_again {ops : List Operation} (hc : engine.collaborators.Memoryless)
    (h : ∀ op ∈ ops, op.Spares name) (id id' : RunId) (input : Object) :
    ((engine.afterAll (.run id name input :: ops)).run id' name input).1 =
      (engine.run id name input).1.map (·.withRun id') := by
  obtain ⟨hfind, hcollaborators, hlimits⟩ :=
    spared_afterAll (engine.after (.run id name input)) h
  have hrun := agrees_run engine id name input
  change (((engine.after (.run id name input)).afterAll ops).run id' name input).1 = _
  generalize (engine.after (.run id name input)).afterAll ops = later at *
  have hsame : later.find name = engine.find name := by
    rw [hfind, find_eq, find_eq]
    exact congrArg (Option.elim · _ _) (congrArg (Registry.get? · name) hrun.workflows)
  cases hw : engine.find name with
  | error cause => simp only [run, hsame, hw, Except.map]
  | ok w =>
    rw [run_of_find (hsame.trans hw), run_of_find hw]
    have hsetup : later.setup id' w = (engine.setup id w).withRun id' := by
      rw [setup, hcollaborators.trans hrun.collaborators, hlimits.trans hrun.limits]
      rfl
    have hagain := (engine.setup id w).again_execute hc id' (.fresh input w.vars) engine.journal
      later.journal
    have houtcome : later.outcome id' w input =
        ((engine.setup id w).withRun id').execute (.start (.fresh input w.vars) later.journal) := by
      rw [← hsetup]
      rfl
    rw [← houtcome] at hagain
    rw [hsetup]
    exact result_of_matches hagain

/-- After any history an engine holds under each name what was registered last, and lists the names
that have a workflow. What is refused and what is run changes nothing of this, but that a definition
stays registered. So a run that is repeated while the workflow of its name and the collaborators
stay differs in its identifier alone, if no collaborator remembers calls. -/
theorem reflects_afterAll (limits : Limits) (collaborators : Collaborators) (bus : Option Bus)
    (ops : List Operation) :
    let engine := (new limits collaborators bus).afterAll ops
    Reflects collaborators ops engine ∧
      (∀ text cause, Workflow.read text = .error cause → engine.after (.parse text) = engine) ∧
      (∀ id definition input cause, Workflow.readJson definition = .error cause →
        engine.after (.runDefinition id definition input) = engine) ∧
      (∀ id definition input w, Workflow.readJson definition = .ok w →
        (engine.register w).Agrees (engine.after (.runDefinition id definition input))) ∧
      (∀ id name input, engine.Agrees (engine.after (.run id name input))) ∧
      ∀ id id' name input later, engine.collaborators.Memoryless →
        (∀ op ∈ later, op.Spares name) →
        ((engine.afterAll (.run id name input :: later)).run id' name input).1 =
          (engine.run id name input).1.map (·.withRun id') := by
  intro engine
  refine ⟨reflects_new limits collaborators bus ops, ?_, ?_, ?_, ?_, ?_⟩
  · intro text cause hread
    simp only [after, registerText, hread]
  · intro id definition input cause hread
    rw [after, runDefinition_of_error hread]
  · intro id definition input w hread
    exact agrees_runDefinition hread engine id input
  · intro id name input
    exact agrees_run engine id name input
  · intro id id' name input later hc h
    exact run_again hc h id id' input

theorem memoryless_echo : Collaborators.echo.Memoryless where
  agent name agent h := by
    rw [Collaborators.echo, Registry.get?_insert] at h
    split at h
    · cases h
      exact Collaborator.memoryless_pure _ _ _
    · cases h
  function name function h := by
    rw [Collaborators.echo, Registry.get?_insert] at h
    split at h
    · cases h
      exact Collaborator.memoryless_pure _ _ _
    · cases h
  prompt executor h := by
    cases h
    exact Collaborator.memoryless_pure _ _ _

/-- A workflow that repeats what it is told. -/
def parrot : Workflow :=
  { name := "parrot"
    nodes := [{ name := "in", kind := .input, params := ∅ },
      { name := "ask", kind := .agent, params := .ofList [("name", "echo"), ("input", "$word")] },
      { name := "out", kind := .output
        params := .ofList [("key", "word"), ("value", "$ask_result")] }]
    edges := [⟨"in", "ask", .always⟩, ⟨"ask", "out", .always⟩]
    vars := ∅ }

theorem reflects_afterAll_parrot :
    let engine := (new .standard .echo none).afterAll [.parse "", .register parrot]
    let later := [.parse "parrot", .register doubt, .run ⟨"r"⟩ "doubt" ∅, .names]
    let word : Object := .ofList [("word", .string "hello")]
    (∀ op ∈ later, op.Spares "parrot") ∧
      ((engine.afterAll (.run ⟨"first"⟩ "parrot" word :: later)).run ⟨"second"⟩ "parrot" word).1 =
        (engine.run ⟨"first"⟩ "parrot" word).1.map (·.withRun ⟨"second"⟩) ∧
      ((engine.run ⟨"first"⟩ "parrot" word).1.toOption.bind (·.output.get? "word")).bind
        Value.string? = some "hello" := by
  intro engine later word
  have hother : ∀ op ∈ later, (op.workflow? "parrot").isNone = true := by decide +kernel
  have hspares : ∀ op ∈ later, op.Spares "parrot" := by
    intro op hop
    have hworkflow := Option.isNone_iff_eq_none.mp (hother op hop)
    simp only [later, List.mem_cons, List.not_mem_nil, or_false] at hop
    rcases hop with rfl | rfl | rfl | rfl <;> exact ⟨hworkflow, fun _ => rfl, fun _ => rfl, rfl⟩
  obtain ⟨-, -, -, -, -, hagain⟩ :=
    reflects_afterAll .standard .echo none [.parse "", .register parrot]
  exact ⟨hspares, hagain _ _ _ _ _ memoryless_echo hspares, by decide +kernel⟩

end Engine

end Flowscript
