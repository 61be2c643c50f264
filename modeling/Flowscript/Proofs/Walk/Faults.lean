import Flowscript.Proofs.Walk.Visits

/-!
# Faults and failures

Something may go wrong in the visit of a node in two ways. A condition without a value is a fault:
it is recorded, the condition counts as false, and the run goes on. A collaborator that takes too
long or answers with a failure stops the run; whatever its failure is, it arrives as a failure of
the collaborator with the text of its own. So a run is stopped by a refusal or by delegated work
only. The main statement is `accounts_execute`.
-/

namespace Flowscript

/-- The fault of a node in a scope: that of a condition without a value. -/
def Node.fault? (n : Node) (scope : Scope) : Option ConditionError :=
  let expression := n.param "expression" "true"
  match n.kind, Condition.holds scope expression.toList with
  | .condition, .error fault =>
    some { node := n.name, expression
           message := (Failure.conditionFailed expression fault.message).message }
  | _, _ => none

namespace Setup

variable {setup : Setup}

/-- The event that reports a fault. -/
def faultEvent (setup : Setup) (fault : ConditionError) : Event :=
  .conditionFailed setup.run setup.workflow.name fault.node fault.expression fault.message

/-- The fault that comes up in a visit. -/
def faultOf (v : Visit) : Option ConditionError :=
  v.node.fault? v.before.state.scope

theorem fault?_of_kind_ne {n : Node} (scope : Scope) (hkind : n.kind ≠ .condition) :
    n.fault? scope = none := by
  unfold Node.fault?
  dsimp only
  split
  · next hcondition _ => exact absurd hcondition hkind
  · rfl

theorem kind_ne_condition_of_delegates {n : Node} (h : n.delegates) : n.kind ≠ .condition := by
  rcases h with hkind | hkind | hkind <;> simp [hkind]

/-- The work of a node reports its fault and records it, and reports and records nothing else. -/
theorem faults_work (setup : Setup) (n : Node) (p : Progress) :
    (setup.work n p).progress.events.toList =
        p.events.toList ++ ((n.fault? p.state.scope).map setup.faultEvent).toList ∧
      (setup.work n p).progress.state.conditionErrors.toList =
        p.state.conditionErrors.toList ++ (n.fault? p.state.scope).toList := by
  -- Only a condition has a fault, so in the other cases nothing is added.
  have hwork := setup.works_work n p
  generalize setup.work n p = o at hwork ⊢
  cases hwork with
  | input hkind => simp [fault?_of_kind_ne, hkind]
  | output hkind =>
    simp [fault?_of_kind_ne, hkind, outputWork, Progress.withState, RunState.write]
  | refused hkind | failed hkind | answered hkind =>
    rw [fault?_of_kind_ne _ (kind_ne_condition_of_delegates hkind)]
    simp [Progress.note, Progress.setResult, Progress.withState, RunState.setResult]
  | condition hkind =>
    unfold conditionWork Node.fault?
    dsimp only
    split <;> simp [*, noteFault, faultEvent, Progress.setResult, Progress.withState,
      Progress.report, RunState.setResult, RunState.recordError]

theorem conditionErrors_perform (setup : Setup) (v : Visit) :
    (setup.perform v.node v.before).progress.state.conditionErrors.toList =
      v.before.state.conditionErrors.toList ++ (faultOf v).toList := by
  obtain ⟨-, hfaults⟩ := setup.faults_work v.node (setup.entered v.node v.before)
  rw [progress_perform]
  split <;> exact hfaults

/-! ## Conditions -/

/-- What becomes of the visit of a condition, which leads to `q`: with a value, that is its result;
without, its result is false and the fault is recorded. -/
structure Concludes (setup : Setup) (v : Visit) (q : Progress) : Prop where
  /-- The run goes on. -/
  dispatch : setup.dispatch v.node.name v.before = .ok v.node q
  of_value {truth : Bool}
      (hvalue : Condition.holds v.before.state.scope
        (v.node.param "expression" "true").toList = .ok truth) :
    q.state.result? v.node.name = some (.bool truth) ∧
      q.state.conditionErrors = v.before.state.conditionErrors
  of_fault {fault : Condition.Fault}
      (hfault : Condition.holds v.before.state.scope
        (v.node.param "expression" "true").toList = .error fault) :
    q.state.result? v.node.name = some (.bool false) ∧
      q.state.conditionErrors = v.before.state.conditionErrors.push
        { node := v.node.name
          expression := v.node.param "expression" "true"
          message := (Failure.conditionFailed (v.node.param "expression" "true")
            fault.message).message }

theorem concludes_of_dispatch {v : Visit} {q : Progress} (hkind : v.node.kind = .condition)
    (h : setup.dispatch v.node.name v.before = .ok v.node q) : setup.Concludes v q := by
  have hresult := result?_dispatch_condition hkind h
  have herrors := setup.conditionErrors_perform v
  rw [(perform_of_dispatch h).2, Outcome.progress_ok] at herrors
  unfold Node.truth at hresult
  unfold faultOf Node.fault? at herrors
  refine ⟨h, fun hvalue => ?_, fun hfault => ?_⟩
  · simp only [hvalue] at hresult
    simp only [hkind, hvalue, Option.toList_none, List.append_nil] at herrors
    exact ⟨hresult, Array.toList_inj.mp herrors⟩
  · simp only [hfault] at hresult
    simp only [hkind, hfault, Option.toList_some, ← Array.toList_push] at herrors
    exact ⟨hresult, Array.toList_inj.mp herrors⟩

/-! ## Collaborators -/

/-- A visit with an exchange that does not settle in an answer stops. -/
theorem perform_of_settled {n : Node} {p : Progress} {x : Exchange} {cause : Failure}
    (hexchange : setup.exchange? n p = some x)
    (hsettled : x.settled n.name (setup.entered n p).state.trace = .error cause) :
    setup.perform n p = .stopped cause ((setup.entered n p).note x.call) := by
  rw [← setup.exchange?_entered] at hexchange
  unfold perform
  simp only [work_of_exchange? hexchange, hsettled]

/-- Only the visit of a node that delegates its work stops a run. -/
theorem delegates_of_perform {n : Node} {p q : Progress} {cause : Failure}
    (h : setup.perform n p = .stopped cause q) : n.delegates := by
  unfold perform at h
  split at h
  · next hwork =>
    have hworks := setup.works_work n (setup.entered n p)
    rw [hwork] at hworks
    cases hworks with
    | refused hkind | failed hkind => exact hkind
  · cases h

/-! ## Runs -/

variable {p : Progress} {visits : List Visit} {o : Outcome Unit} {v : Visit}

/-- The visit that stops is the one that stops the run. -/
theorem History.eq_stopped (h : setup.History p visits o) (hv : v ∈ visits) {cause : Failure}
    {q : Progress} (hperform : setup.perform v.node v.before = .stopped cause q) :
    o = .stopped cause q := by
  obtain ⟨r, hdispatch⟩ | ⟨cause', r, rfl, hstopped⟩ := h.cases_of_mem hv
  · rw [(perform_of_dispatch hdispatch).2] at hperform
    cases hperform
  · rw [hperform] at hstopped
    cases hstopped
    rfl

theorem History.exists_concludes (h : setup.History p visits o) (hv : v ∈ visits)
    (hkind : v.node.kind = .condition) : ∃ q, setup.Concludes v q := by
  obtain ⟨q, hdispatch⟩ | ⟨cause, q, -, hstopped⟩ := h.cases_of_mem hv
  · exact ⟨q, concludes_of_dispatch hkind hdispatch⟩
  · exact absurd hkind (kind_ne_condition_of_delegates (delegates_of_perform hstopped))

theorem History.isRefusal_or_isOfWork (h : setup.History p visits o) {cause : Failure}
    {q : Progress} (hstopped : o = .stopped cause q) :
    cause.isRefusal = true ∨ cause.isOfWork = true := by
  obtain ⟨walks, hwalks, rfl⟩ := h
  cases hwalks with
  | through => cases hstopped
  | refused _ hcause =>
    cases hstopped
    exact .inl hcause
  | failed _ hcause =>
    cases hstopped
    exact .inr hcause

theorem History.conditionErrors (h : setup.History p visits o) :
    o.progress.state.conditionErrors.toList =
      p.state.conditionErrors.toList ++ visits.filterMap faultOf := by
  rw [List.filterMap_eq_flatMap_toList]
  exact h.appends (fun p => p.state.conditionErrors.toList) setup.conditionErrors_perform
    fun _ => rfl

/-- How the visits of a run account for what goes wrong in it. -/
structure Accounts (setup : Setup) (p : Progress) (visits : List Visit) (o : Outcome Unit) :
    Prop where
  /-- A run is stopped by a refusal or by delegated work, and never by a condition. -/
  stopped {cause : Failure} {q : Progress} (hstopped : o = .stopped cause q) :
    cause.isRefusal = true ∨ cause.isOfWork = true
  /-- A reply that takes too long stops the run, whatever it is. -/
  late {v : Visit} {x : Exchange} (hv : v ∈ visits)
      (hexchange : setup.exchange? v.node v.before = some x) (hlate : x.Late) :
    ∃ q, o = .stopped (.collaboratorTimeout v.node.name x.callee x.seconds) q
  /-- A failure of any kind that a collaborator answers with stops the run as one of the
  collaborator, with the text of its own. -/
  failed {v : Visit} {x : Exchange} {e : Failure} (hv : v ∈ visits)
      (hexchange : setup.exchange? v.node v.before = some x) (htime : ¬ x.Late)
      (houtcome : x.reply.outcome = .error e) :
    ∃ q, o = .stopped (.collaboratorFailed v.node.name x.callee e.message q.state.trace) q
  concludes {v : Visit} (hv : v ∈ visits) (hkind : v.node.kind = .condition) :
    ∃ q, setup.Concludes v q
  /-- The recorded errors are the faults of the conditions, in the order of the visits. -/
  conditionErrors : o.progress.state.conditionErrors.toList =
    p.state.conditionErrors.toList ++ visits.filterMap faultOf

theorem History.accounts (h : setup.History p visits o) : setup.Accounts p visits o where
  stopped hstopped := h.isRefusal_or_isOfWork hstopped
  late hv hexchange hlate := by
    have hperform := perform_of_settled hexchange (Exchange.settled_of_late hlate)
    exact ⟨_, h.eq_stopped hv hperform⟩
  failed := by
    intro v x e hv hexchange htime houtcome
    have hperform := perform_of_settled hexchange (Exchange.settled_of_error htime houtcome)
    -- The call leaves the state as it was when the node was entered, so the traces are the same.
    exact ⟨(setup.entered v.node v.before).note x.call, h.eq_stopped hv hperform⟩
  concludes hv hkind := h.exists_concludes hv hkind
  conditionErrors := h.conditionErrors

end Setup

end Flowscript
