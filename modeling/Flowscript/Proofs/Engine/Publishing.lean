import Flowscript.Engine
import Flowscript.Proofs.Walk.Faults

/-!
# What a run publishes

A visit reports that its node is started, the fault of a condition without a value, and that the
node is completed if the visit goes through. An engine publishes the reports of all visits of a run
between the event that starts the run and the one that ends it.
-/

namespace Flowscript

/-- The workflow that an event reports on. -/
def Event.workflow : Event → String
  | runStarted _ workflow | nodeStarted _ workflow .. | nodeCompleted _ workflow _
  | conditionFailed _ workflow .. | runCompleted _ workflow _ | runFailed _ workflow _ => workflow

/-- The fault that an event reports. -/
def Event.fault? : Event → Option ConditionError
  | conditionFailed _ _ node expression message => some { node, expression, message }
  | _ => none

namespace Setup

variable {setup : Setup}

/-- What a visit reports. -/
def reports (setup : Setup) (v : Visit) : List Event :=
  .nodeStarted setup.run setup.workflow.name v.node.name v.node.kind.keyword ::
    ((faultOf v).map setup.faultEvent).toList ++
      if setup.goesThrough v then [.nodeCompleted setup.run setup.workflow.name v.node.name] else []

/-! ## What visits report -/

@[simp] theorem events_entered (setup : Setup) (n : Node) (p : Progress) :
    (setup.entered n p).events.toList =
      p.events.toList ++ [.nodeStarted setup.run setup.workflow.name n.name n.kind.keyword] := by
  simp [entered, Progress.report, Progress.withState]

theorem events_perform (setup : Setup) (v : Visit) :
    (setup.perform v.node v.before).progress.events.toList =
      v.before.events.toList ++ setup.reports v := by
  obtain ⟨hevents, -⟩ := setup.faults_work v.node (setup.entered v.node v.before)
  rw [events_entered] at hevents
  rw [progress_perform, reports]
  split <;> simp [*, Progress.report, faultOf]

theorem filterMap_fault?_reports (setup : Setup) (v : Visit) :
    (setup.reports v).filterMap Event.fault? = (faultOf v).toList := by
  unfold reports
  cases faultOf v <;> cases setup.goesThrough v <;> rfl

theorem mem_reports {e : Event} {v : Visit} (h : e ∈ setup.reports v) :
    e.run = setup.run ∧ e.workflow = setup.workflow.name := by
  unfold reports at h
  rcases List.mem_append.1 h with h | hdone
  · rcases List.mem_cons.1 h with rfl | hfault
    · exact ⟨rfl, rfl⟩
    · obtain ⟨fault, -, rfl⟩ : ∃ fault, faultOf v = some fault ∧ setup.faultEvent fault = e := by
        simpa using hfault
      exact ⟨rfl, rfl⟩
  · split at hdone
    · obtain rfl := List.mem_singleton.1 hdone
      exact ⟨rfl, rfl⟩
    · cases hdone

/-- The event that ends a run which has made `visited` visits, from the result that is returned. -/
def closing (setup : Setup) (visited : Nat) : Except Failure Report → Event
  | .ok _ => .runCompleted setup.run setup.workflow.name visited
  | .error cause => .runFailed setup.run setup.workflow.name cause.message

theorem fault?_closing (setup : Setup) (visited : Nat) (result : Except Failure Report) :
    (setup.closing visited result).fault? = none := by
  cases result <;> rfl

theorem origin_closing (setup : Setup) (visited : Nat) (result : Except Failure Report) :
    (setup.closing visited result).run = setup.run ∧
      (setup.closing visited result).workflow = setup.workflow.name := by
  cases result <;> exact ⟨rfl, rfl⟩

/-- The events of a run that makes some visits, comes to an outcome and returns a result. -/
structure Chronicle (setup : Setup) (visits : List Visit) (o : Outcome Unit)
    (result : Except Failure Report) (events : List Event) : Prop where
  /-- The visits are the entries of the path. -/
  path : o.progress.state.path.toList = visits.map fun v => v.node.name
  /-- What is reported stands between the start and the end of the run. -/
  events_eq : events = .runStarted setup.run setup.workflow.name ::
    (visits.flatMap setup.reports ++ [setup.closing visits.length result])
  /-- Before the last visit, all go through. -/
  through : ∀ v ∈ visits.dropLast, setup.goesThrough v = true
  /-- The last visit does not go through exactly if its own dispatch stops the run. -/
  broken : ∀ v ∈ visits.getLast?, setup.goesThrough v = false ↔
    ∃ cause q, o = .stopped cause q ∧ setup.dispatch v.node.name v.before = .stopped cause q
  /-- The faults that are reported are those that are recorded. -/
  faults : events.filterMap Event.fault? = o.progress.state.conditionErrors.toList
  /-- All events name the run and its workflow. -/
  origin : ∀ e ∈ events, e.run = setup.run ∧ e.workflow = setup.workflow.name
  /-- A run that returns a failure has been stopped by it. -/
  failed : ∀ cause, result = .error cause ↔ o.cause? = some cause
  /-- A report has the path and the faults of the run. -/
  reported : ∀ report, result = .ok report → report.path = o.progress.state.path ∧
    report.conditionErrors = o.progress.state.conditionErrors

/-- The result that is returned for an outcome. -/
def result (setup : Setup) : Outcome Unit → Except Failure Report
  | .ok _ p => .ok (.ofState setup.run setup.workflow.name p.state)
  | .stopped cause _ => .error cause

theorem closing_result (setup : Setup) (o : Outcome Unit) :
    setup.closing o.progress.state.path.size (setup.result o) =
      Engine.finalEvent setup.run setup.workflow.name o := by
  cases o <;> rfl

variable {visits : List Visit} {o : Outcome Unit} {input vars : Object} {calls : Array Call}

theorem History.events (h : setup.History (.start (.fresh input vars) calls) visits o) :
    o.progress.events.toList = visits.flatMap setup.reports := by
  have hevents := h.appends (fun p => p.events.toList) setup.events_perform fun _ => rfl
  simpa [Progress.start] using hevents

theorem History.chronicle (h : setup.History (.start (.fresh input vars) calls) visits o) :
    setup.Chronicle visits o (setup.result o)
      (Engine.runEvents setup.run setup.workflow.name o) := by
  have hpath : o.progress.state.path.toList = visits.map fun v => v.node.name := by
    simpa [Progress.start, RunState.fresh] using h.path
  have hsize : o.progress.state.path.size = visits.length := by
    simpa using congrArg List.length hpath
  have hfaults : o.progress.state.conditionErrors.toList = visits.filterMap faultOf := by
    simpa [Progress.start, RunState.fresh] using h.conditionErrors
  have hrun : Engine.runEvents setup.run setup.workflow.name o =
      .runStarted setup.run setup.workflow.name ::
        (visits.flatMap setup.reports ++ [setup.closing visits.length (setup.result o)]) := by
    rw [← hsize, closing_result, ← h.events]
    rfl
  refine ⟨hpath, hrun, fun v => h.goesThrough_of_mem_dropLast,
    fun v => h.goesThrough_eq_false_iff, ?_, ?_, ?_, ?_⟩
  · rw [hrun, hfaults, List.filterMap_cons_none rfl, List.filterMap_append,
      List.filterMap_flatMap, List.filterMap_eq_flatMap_toList faultOf]
    simp [filterMap_fault?_reports, fault?_closing]
  · intro e he
    rw [hrun] at he
    rcases List.mem_cons.1 he with rfl | he
    · exact ⟨rfl, rfl⟩
    · rcases List.mem_append.1 he with hreport | hend
      · obtain ⟨v, -, hv⟩ := List.mem_flatMap.1 hreport
        exact mem_reports hv
      · obtain rfl := List.mem_singleton.1 hend
        exact origin_closing _ _ _
  · intro cause
    cases o <;> simp [result, Outcome.cause?]
  · intro report hreport
    cases o with
    | ok u q =>
      cases hreport
      exact ⟨rfl, rfl⟩
    | stopped cause q => cases hreport

end Setup

namespace Engine

variable {engine : Engine} {bus : Bus}

/-- The setup of a run of a workflow. -/
def setup (engine : Engine) (id : RunId) (w : Workflow) : Setup :=
  { workflow := w, collaborators := engine.collaborators, limits := engine.limits, run := id }

theorem bus_foldl_publish (hbus : engine.bus = some bus) (events : List Event) :
    (events.foldl publish engine).bus =
      some { bus with published := bus.published ++ events } := by
  induction events generalizing engine bus with
  | nil => simp [hbus]
  | cons e more ih =>
    have hpublish : (engine.publish e).bus = some (bus.publish e) := by simp [publish, hbus]
    rw [List.foldl_cons, ih hpublish]
    simp [Bus.publish]

theorem run_of_find {id : RunId} {name : String} {w : Workflow} (hfind : engine.find name = .ok w)
    (input : Object) : engine.run id name input =
      ((engine.setup id w).result (engine.outcome id w input),
        (runEvents id w.name (engine.outcome id w input)).foldl publish
          { engine with journal := (engine.outcome id w input).progress.calls }) := by
  simp only [run, hfind, runWorkflow]
  cases engine.outcome id w input <;> rfl

/-- A run of an engine with a bus publishes the events of the run and nothing else, and nothing at
all if there is no workflow of the name. -/
theorem published_run (hbus : engine.bus = some bus) (id : RunId) (name : String)
    (input : Object) :
    (∀ cause, engine.find name = .error cause →
      (engine.run id name input).2.bus = some bus) ∧
    ∀ w, engine.find name = .ok w → ∃ visits events,
      (engine.setup id w).History (.start (.fresh input w.vars) engine.journal) visits
        (engine.outcome id w input) ∧
      (engine.setup id w).Chronicle visits (engine.outcome id w input)
        (engine.run id name input).1 events ∧
      (engine.run id name input).2.bus =
        some { bus with published := bus.published ++ events } := by
  constructor
  · intro cause hfind
    simp [run, hfind, hbus]
  · intro w hfind
    obtain ⟨visits, hhistory⟩ :=
      (engine.setup id w).exists_history (.start (.fresh input w.vars) engine.journal)
    refine ⟨visits, runEvents id w.name (engine.outcome id w input), hhistory, ?_, ?_⟩
    · rw [run_of_find hfind]
      exact hhistory.chronicle
    · rw [run_of_find hfind]
      apply bus_foldl_publish
      exact hbus

/-- A workflow with a condition that is no expression, before an agent. -/
def doubt : Workflow :=
  { name := "doubt"
    nodes := [{ name := "in", kind := .input, params := ∅ },
      { name := "check", kind := .condition, params := .ofList [("expression", "1 <")] },
      { name := "ask", kind := .agent, params := .ofList [("name", "poet")] }]
    edges := [⟨"in", "check", .always⟩, ⟨"check", "ask", .always⟩]
    vars := ∅ }

/-- An engine with the workflow and a bus, but without the agent. -/
def doubting : Engine :=
  (Engine.new .standard .none (some (.new 16))).register doubt

/-- What a run of the workflow publishes. -/
def doubts : List Event :=
  let id : RunId := ⟨"r"⟩
  [.runStarted id "doubt", .nodeStarted id "doubt" "in" "input", .nodeCompleted id "doubt" "in",
    .nodeStarted id "doubt" "check" "condition",
    .conditionFailed id "doubt" "check" "1 <"
      "Condition '1 <' could not be evaluated: unexpected end of expression",
    .nodeCompleted id "doubt" "check", .nodeStarted id "doubt" "ask" "agent",
    .runFailed id "doubt" "agent 'poet' not registered"]

theorem published_run_doubting :
    doubting.bus = some (.new 16) ∧ doubting.find "doubt" = .ok doubt ∧ ∃ visits,
      (doubting.setup ⟨"r"⟩ doubt).Chronicle visits (doubting.outcome ⟨"r"⟩ doubt ∅)
        (doubting.run ⟨"r"⟩ "doubt" ∅).1 doubts := by
  have hbus : doubting.bus = some (.new 16) := rfl
  have hfind : doubting.find "doubt" = .ok doubt := rfl
  obtain ⟨-, hrun⟩ := published_run hbus ⟨"r"⟩ "doubt" ∅
  obtain ⟨visits, events, -, hchronicle, hafter⟩ := hrun doubt hfind
  have hpublished : (doubting.run ⟨"r"⟩ "doubt" ∅).2.bus.map (fun bus => bus.published.toList) =
      some doubts := by
    decide +kernel
  obtain rfl : events = doubts := by
    simpa [hafter, Bus.new] using hpublished
  exact ⟨hbus, hfind, visits, hchronicle⟩

end Engine

end Flowscript
