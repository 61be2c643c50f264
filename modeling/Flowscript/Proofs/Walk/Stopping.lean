import Flowscript.Proofs.Walk.Visits

/-!
# What a failed run leaves

A run that fails does so before anything of the failing step is written. A step that is refused
changes nothing, and work that fails leaves its node entered and no more. So the results of a failed
run are those of the last dispatch that went through, which is `state_of_stopped`.
-/

namespace Flowscript.Setup

variable {setup : Setup} {p q r : Progress} {n : Node} {cause : Failure} {visits : List Visit}

/-- Work that stops a run leaves its node entered; a failure that carries a trace carries the path
and the output of this state, and names the node. -/
theorem state_of_perform_stopped (h : setup.perform n p = .stopped cause q) :
    q.state = p.state.enter n.name ∧ ∀ node callee message trace,
      cause = .collaboratorFailed node callee message trace →
        node = n.name ∧ trace.path = q.state.path ∧ trace.partialOutput = q.state.output := by
  unfold perform at h
  split at h
  · next hwork =>
    cases h
    cases delegates_of_work hwork with
    | unregistered | late => exact ⟨rfl, fun _ _ _ _ hcause => nomatch hcause⟩
    | unfit | failed =>
      refine ⟨rfl, fun _ _ _ _ hcause => ?_⟩
      cases hcause
      exact ⟨rfl, rfl, rfl⟩
  · cases h

/-- Visits leave a run running. -/
theorem Visits.status_ne_completed (h : setup.Visits p visits q)
    (hstart : p.state.status ≠ .completed) : q.state.status ≠ .completed := by
  cases h with
  | start => exact hstart
  | visit hvisits hdispatch =>
    obtain ⟨-, hperform⟩ := perform_of_dispatch hdispatch
    obtain ⟨vars, output, conditionErrors, hstate⟩ := setup.exists_state_perform _ _
    rw [hperform, Outcome.progress_ok] at hstate
    simp [hstate, RunState.enter]

/-- A run that is stopped has made visits that went through, is then refused or stopped by work. -/
theorem exists_visits_of_stopped (h : setup.execute p = .stopped cause r) :
    ∃ visits q, setup.Visits p visits q ∧
      (cause.isRefusal = true ∧ r = q ∨ cause.isOfWork = true ∧
        ∃ n, setup.workflow.node? n.name = some n ∧ setup.dispatch n.name q = .stopped cause r ∧
          setup.perform n q = .stopped cause r) := by
  obtain ⟨visits, walks, hstretch, hwalks⟩ := setup.exists_history p
  rw [h] at hwalks
  cases hstretch with
  | through => cases hwalks
  | refused hvisits hcause =>
    cases hwalks
    exact ⟨_, _, hvisits, .inl ⟨hcause, rfl⟩⟩
  | failed hvisits hcause hnode hdispatch hperform =>
    cases hwalks
    exact ⟨_, _, hvisits, .inr ⟨hcause, _, hnode, hdispatch, hperform⟩⟩

theorem isRefusal_of_isOfWork (h : cause.isOfWork = true) : cause.isRefusal = false := by
  cases cause with
  | unregistered | collaboratorFailed | collaboratorTimeout => rfl
  | _ => cases h

/-- What a failed run leaves at the end, if `q` is what the last dispatch that went through led
to. -/
structure Leaves (setup : Setup) (cause : Failure) (q r : Progress) : Prop where
  vars : r.state.vars = q.state.vars
  output : r.state.output = q.state.output
  conditionErrors : r.state.conditionErrors = q.state.conditionErrors
  /-- There are no other causes than refused steps and the work of nodes. -/
  causes : cause.isRefusal = true ∨ cause.isOfWork = true
  /-- A refused step changes nothing at all. -/
  refused (hcause : cause.isRefusal = true) : r.state = q.state
  /-- Work that fails leaves its node entered, as the last on the path, and the failure of a
  collaborator has the node and the path and the output as they are then. -/
  failed (hcause : cause.isOfWork = true) : ∃ n, setup.workflow.node? n.name = some n ∧
    setup.dispatch n.name q = .stopped cause r ∧ r.state = q.state.enter n.name ∧
    r.state.path = q.state.path.push n.name ∧ ∀ node callee message trace,
      cause = .collaboratorFailed node callee message trace →
        node = n.name ∧ trace.path = r.state.path ∧ trace.partialOutput = r.state.output

theorem leaves_refused (setup : Setup) (hcause : cause.isRefusal = true) :
    setup.Leaves cause q q where
  vars := rfl
  output := rfl
  conditionErrors := rfl
  causes := .inl hcause
  refused _ := rfl
  failed hwork := by
    rw [isRefusal_of_isOfWork hwork] at hcause
    cases hcause

theorem leaves_failed (hcause : cause.isOfWork = true)
    (hnode : setup.workflow.node? n.name = some n)
    (hdispatch : setup.dispatch n.name q = .stopped cause r)
    (hperform : setup.perform n q = .stopped cause r) : setup.Leaves cause q r := by
  obtain ⟨hstate, htrace⟩ := state_of_perform_stopped hperform
  refine ⟨by rw [hstate]; rfl, by rw [hstate]; rfl, by rw [hstate]; rfl, .inr hcause,
    fun hrefusal => ?_, fun _ => ⟨n, hnode, hdispatch, hstate, by rw [hstate]; rfl, htrace⟩⟩
  rw [isRefusal_of_isOfWork hcause] at hrefusal
  cases hrefusal

/-- A failed run leaves no half-made step. What it leaves is what the visits that went through have
led to, but for the entry of a node whose work failed; these visits are all that the run has made.
A failed run does not count as completed. -/
theorem state_of_stopped (h : setup.execute p = .stopped cause r) :
    (∃ visits q, setup.Visits p visits q ∧
      q.state.path.toList = p.state.path.toList ++ visits.map (fun v => v.node.name) ∧
      setup.Leaves cause q r) ∧
    (p.state.status ≠ .completed → r.state.status ≠ .completed) ∧
    (setup.execute p).finalState.status = .failed cause.message := by
  obtain ⟨visits, q, hvisits, hend⟩ := exists_visits_of_stopped h
  have hpath := (Stretch.through hvisits).path
  have hfinal : (setup.execute p).finalState.status = .failed cause.message := by rw [h]; rfl
  obtain ⟨hcause, rfl⟩ | ⟨hcause, n, hnode, hdispatch, hperform⟩ := hend
  · exact ⟨⟨visits, _, hvisits, hpath, setup.leaves_refused hcause⟩,
      hvisits.status_ne_completed, hfinal⟩
  · refine ⟨⟨visits, q, hvisits, hpath, leaves_failed hcause hnode hdispatch hperform⟩,
      fun _ => ?_, hfinal⟩
    obtain ⟨hstate, -⟩ := state_of_perform_stopped hperform
    simp [hstate, RunState.enter]

/-- A workflow with an output before an agent that always fails. -/
def weary : Setup :=
  { workflow :=
      { name := "weary"
        nodes := [{ name := "in", kind := .input, params := ∅ },
          { name := "draft", kind := .output, params := .ofList [("value", "so far")] },
          { name := "ask", kind := .agent, params := .ofList [("name", "poet")] }]
        edges := [⟨"in", "draft", .always⟩, ⟨"draft", "ask", .always⟩]
        vars := ∅ }
    collaborators :=
      { agents := Registry.empty.insert "poet"
          (.pure (fun _ => .error (.collaborator "too tired")) 0 none)
        functions := ∅
        prompt := none }
    limits := .standard, run := ⟨"r"⟩ }

/-- How a run of the workflow ends. -/
def wearyEnd : Outcome Unit :=
  weary.execute (.start (.fresh ∅ ∅) #[])

/-- The node, the collaborator and the message of a call that has failed. -/
def reportedCall? : Failure → Option (String × String × String)
  | .collaboratorFailed node callee message _ => some (node, callee, message)
  | _ => none

/-- The agent is left entered and nothing else, and its failure has the path and the output. -/
theorem state_of_stopped_weary :
    ∃ trace r, wearyEnd = .stopped (.collaboratorFailed "ask" "poet" "too tired" trace) r ∧
      trace.path = #["in", "draft", "ask"] ∧ trace.partialOutput.keys = ["result"] ∧
      ∃ q : Progress, r.state = q.state.enter "ask" ∧ q.state.output = r.state.output := by
  have hcall : wearyEnd.cause?.bind reportedCall? = some ("ask", "poet", "too tired") := by
    decide +kernel
  have hpath : wearyEnd.progress.state.path = #["in", "draft", "ask"] := by decide +kernel
  have hkeys : wearyEnd.progress.state.output.keys = ["result"] := by decide +kernel
  obtain ⟨cause, hcause, hend⟩ := Outcome.exists_eq_stopped hcall
  cases cause with
  | collaboratorFailed node callee message trace =>
    cases hcause
    obtain ⟨⟨visits, q, -, -, hleaves⟩, -⟩ := state_of_stopped hend
    obtain ⟨n, -, -, hstate, -, htrace⟩ := hleaves.failed rfl
    obtain ⟨hname, htracePath, htraceOutput⟩ := htrace _ _ _ _ rfl
    exact ⟨trace, _, hend, htracePath.trans hpath, htraceOutput ▸ hkeys, q, hname ▸ hstate,
      hleaves.output.symm⟩
  | _ => cases hcause

end Flowscript.Setup
