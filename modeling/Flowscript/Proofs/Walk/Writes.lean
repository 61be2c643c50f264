import Flowscript.Proofs.Dict
import Flowscript.Proofs.Walk.Visits

/-!
# What a run writes

A visit that goes through stores the result of its node among the variables, if the node has one,
and the visit of an output node writes one value to the output. Nothing else is written and nothing
is taken away. So a variable holds what it held at first, unless it holds the result of the last
visit of a node that went through, and a key of the output holds what the last output node with that
key has written. The main statement is `writes_execute`.
-/

namespace Flowscript

/-- Whether a node stores a result among the variables. -/
def Node.hasResult (n : Node) : Prop :=
  n.delegates ∨ n.kind = .condition

namespace Setup

variable {setup : Setup} {n : Node} {p : Progress} {v : Visit}

/-- The result that the work of a node produces: the truth of a condition, or what a collaborator
has answered. -/
def product? (setup : Setup) (n : Node) (p : Progress) : Option Value :=
  match n.kind with
  | .condition => some (.bool (n.truth p.state.scope))
  | _ => (setup.exchange? n p).bind fun x => x.reply.outcome.toOption

/-- What a visit stores among the variables: the result of its node, if the visit goes through. -/
def stores (setup : Setup) (v : Visit) : List (String × Value) :=
  if setup.goesThrough v then
    ((setup.product? v.node v.before).map fun result => (v.node.name ++ "_result", result)).toList
  else []

/-- The key of the output that an output node writes. -/
def outputKey (n : Node) : String :=
  n.param "key" "result"

/-- The value that an output node writes, as it stands in a scope. -/
def outputValue (n : Node) (scope : Scope) : Value :=
  Parameter.resolve scope (n.param "value" "\x7b\x7d")

/-- What a visit writes to the output. -/
def outputs (v : Visit) : List (String × Value) :=
  if v.node.kind = .output then [(outputKey v.node, outputValue v.node v.before.state.scope)]
  else []

/-! ## Single visits -/

theorem goesThrough_iff (setup : Setup) (v : Visit) : setup.goesThrough v = true ↔
    ∃ q, setup.work v.node (setup.entered v.node v.before) = .ok () q := by
  unfold goesThrough perform
  cases setup.work v.node (setup.entered v.node v.before) <;> simp [Outcome.cause?]

theorem product?_of_exchange? {x : Exchange} (hdelegates : n.delegates)
    (h : setup.exchange? n p = some x) :
    setup.product? n p = x.reply.outcome.toOption := by
  unfold product?
  rcases hdelegates with hkind | hkind | hkind <;> simp [hkind, h]

/-- Delegated work that goes through stores the answer. -/
theorem exists_product?_of_work {q : Progress} (hdelegates : n.delegates)
    (h : setup.work n p = .ok () q) : ∃ result, setup.product? n p = some result ∧
      q.state = p.state.setResult n.name result := by
  cases hexchange : setup.exchange? n p with
  | none =>
    obtain ⟨cause, hstopped⟩ := exists_stopped_of_exchange?_eq_none hdelegates hexchange
    cases hstopped.symm.trans h
  | some x =>
    have hwork := work_of_exchange? hexchange
    cases hsettled : x.settled n.name p.state.trace with
    | error cause =>
      simp only [hsettled] at hwork
      cases hwork.symm.trans h
    | ok result =>
      simp only [hsettled] at hwork
      cases hwork.symm.trans h
      have houtcome := Exchange.outcome_of_settled hsettled
      exact ⟨result, by rw [product?_of_exchange? hdelegates hexchange, houtcome]; rfl, rfl⟩

/-- The visit of a node that has a result goes through with it. -/
theorem exists_product?_of_goesThrough (hthrough : setup.goesThrough v = true)
    (hresult : v.node.hasResult) : ∃ result, setup.product? v.node v.before = some result := by
  obtain ⟨q, hwork⟩ := (setup.goesThrough_iff v).mp hthrough
  rcases hresult with hdelegates | hkind
  · obtain ⟨result, hproduct, -⟩ := exists_product?_of_work hdelegates hwork
    exact ⟨result, hproduct⟩
  · exact ⟨_, by simp only [product?, hkind]; rfl⟩

theorem product?_eq_none (h : ¬ n.hasResult) : setup.product? n p = none := by
  unfold product? exchange?
  cases hkind : n.kind with
  | input | output => rfl
  | agent | function | prompt => exact absurd (.inl (by simp [Node.delegates, hkind])) h
  | condition => exact absurd (.inr hkind) h

theorem vars_of_work {q : Progress} (h : setup.work n p = .ok () q) :
    q.state.vars = p.state.vars.writeAll
      ((setup.product? n p).map fun result => (n.name ++ "_result", result)).toList := by
  by_cases hdelegates : n.delegates
  · obtain ⟨result, hproduct, hstate⟩ := exists_product?_of_work hdelegates h
    rw [hproduct, hstate]
    rfl
  · have hworks := setup.works_work n p
    rw [h] at hworks
    cases hworks with
    | input hkind =>
      rw [product?_eq_none (by simp [Node.hasResult, hdelegates, hkind])]
      rfl
    | output hkind =>
      rw [product?_eq_none (by simp [Node.hasResult, hdelegates, hkind])]
      rfl
    | condition hkind =>
      rw [state_conditionWork]
      simp only [product?, hkind]
      rfl
    | answered hkind => exact absurd hkind hdelegates

/-- Work that stops the run has written nothing. -/
theorem state_of_work_stopped {cause : Failure} {q : Progress}
    (h : setup.work n p = .stopped cause q) : q.state = p.state := by
  cases delegates_of_work h <;> rfl

theorem vars_perform (setup : Setup) (v : Visit) :
    (setup.perform v.node v.before).progress.state.vars =
      v.before.state.vars.writeAll (setup.stores v) := by
  rw [progress_perform, stores]
  split
  · next hthrough =>
    obtain ⟨q, hwork⟩ := (setup.goesThrough_iff v).mp hthrough
    have hvars := vars_of_work hwork
    rw [hwork]
    exact hvars
  · next hstopped =>
    cases hwork : setup.work v.node (setup.entered v.node v.before) with
    | ok u q => exact absurd ((setup.goesThrough_iff v).mpr ⟨q, hwork⟩) hstopped
    | stopped cause q =>
      rw [Outcome.progress_stopped, state_of_work_stopped hwork]
      rfl

/-- Only an output node writes to the output, and its visit always goes through. -/
theorem output_work (setup : Setup) (n : Node) (p : Progress) :
    (setup.work n p).progress.state.output = p.state.output.writeAll (outputs ⟨n, p⟩) := by
  have hwork := setup.works_work n p
  generalize setup.work n p = o at hwork ⊢
  cases hwork with
  | output hkind => simp [outputs, hkind, outputWork, RunState.write, outputKey, outputValue]
  | input hkind => simp [outputs, hkind]
  | condition hkind =>
    unfold conditionWork
    dsimp only
    split <;> simp [outputs, hkind, noteFault, RunState.setResult, RunState.recordError]
  | refused hkind | failed hkind | answered hkind =>
    rcases hkind with hkind | hkind | hkind <;> simp [outputs, hkind, RunState.setResult]

theorem output_perform (setup : Setup) (v : Visit) :
    (setup.perform v.node v.before).progress.state.output =
      v.before.state.output.writeAll (outputs v) := by
  have hwork := setup.output_work v.node (setup.entered v.node v.before)
  rw [progress_perform]
  split <;> exact hwork

/-! ## Runs -/

variable {visits before after : List Visit} {o : Outcome Unit}

theorem History.input (h : setup.History p visits o) :
    o.progress.state.input = p.state.input := by
  have hfold := h.folds (fun p => p.state.input) (fun input _ => input) (fun v => by
    obtain ⟨vars, output, conditionErrors, hstate⟩ := setup.exists_state_perform v.node v.before
    rw [hstate]
    rfl) fun _ => rfl
  rw [hfold, List.foldl_fixed]

theorem History.vars (h : setup.History p visits o) :
    o.progress.state.vars = p.state.vars.writeAll (visits.flatMap setup.stores) := by
  rw [← Dict.foldl_writeAll]
  exact h.folds (fun p => p.state.vars) _ setup.vars_perform fun _ => rfl

theorem History.output (h : setup.History p visits o) :
    o.progress.state.output = p.state.output.writeAll (visits.flatMap outputs) := by
  rw [← Dict.foldl_writeAll]
  exact h.folds (fun p => p.state.output) _ setup.output_perform fun _ => rfl

/-- What a run has written that makes some visits, given its input and variables and the state that
it ends in. -/
structure Writes (setup : Setup) (visits : List Visit) (input vars : Object) (s : RunState) :
    Prop where
  /-- The input is only read. -/
  input : s.input = input
  /-- A variable that is the result of no node that went through is what it was, or as absent. -/
  vars_other {key : String} (hkey : ∀ v ∈ visits, setup.goesThrough v = true →
      v.node.hasResult → key ≠ v.node.name ++ "_result") : s.vars.get? key = vars.get? key
  /-- The result of a node is what the last of its visits that went through has produced. -/
  vars_last {before after : List Visit} {v : Visit} (hvisits : visits = before ++ v :: after)
      (hthrough : setup.goesThrough v = true) (hresult : v.node.hasResult)
      (hlast : ∀ u ∈ after, u.node.name = v.node.name → setup.goesThrough u = false) :
    ∃ result, setup.product? v.node v.before = some result ∧
      s.vars.get? (v.node.name ++ "_result") = some result
  /-- The keys of the output are those of the output nodes that were visited. -/
  mem_output_keys {key : String} :
    key ∈ s.output.keys ↔ ∃ v ∈ visits, v.node.kind = .output ∧ outputKey v.node = key
  /-- Each of them holds what the last of these nodes has written. -/
  output_last {before after : List Visit} {v : Visit} (hvisits : visits = before ++ v :: after)
      (hkind : v.node.kind = .output)
      (hlast : ∀ u ∈ after, u.node.kind = .output → outputKey u.node ≠ outputKey v.node) :
    s.output.get? (outputKey v.node) = some (outputValue v.node v.before.state.scope)

theorem of_mem_stores {entry : String × Value} (h : entry ∈ setup.stores v) :
    setup.goesThrough v = true ∧ v.node.hasResult ∧ entry.1 = v.node.name ++ "_result" := by
  unfold stores at h
  split at h
  · next hthrough =>
    obtain ⟨result, hproduct, rfl⟩ := Option.map_eq_some_iff.mp (Option.mem_toList.mp h)
    refine ⟨hthrough, by_contra fun hnone => ?_, rfl⟩
    rw [product?_eq_none hnone] at hproduct
    cases hproduct
  · cases h

theorem of_mem_outputs {entry : String × Value} (h : entry ∈ outputs v) :
    v.node.kind = .output ∧ entry.1 = outputKey v.node := by
  unfold outputs at h
  split at h
  · next hkind =>
    obtain rfl := List.mem_singleton.mp h
    exact ⟨hkind, rfl⟩
  · cases h

theorem History.writes {input vars : Object} {calls : Array Call}
    (h : setup.History (.start (.fresh input vars) calls) visits o) :
    setup.Writes visits input vars o.progress.state where
  input := h.input
  vars_other hkey := by
    rw [h.vars]
    refine Dict.get?_writeAll_of_forall_ne fun entry hentry heq => ?_
    obtain ⟨v, hv, hmem⟩ := List.mem_flatMap.mp hentry
    obtain ⟨hthrough, hresult, hname⟩ := of_mem_stores hmem
    exact hkey v hv hthrough hresult (heq.symm.trans hname)
  vars_last := by
    intro before after v hvisits hthrough hresult hlast
    obtain ⟨result, hproduct⟩ := exists_product?_of_goesThrough hthrough hresult
    refine ⟨result, hproduct, ?_⟩
    have hstores : setup.stores v = [(v.node.name ++ "_result", result)] := by
      rw [stores, if_pos hthrough, hproduct]
      rfl
    rw [h.vars, hvisits, List.flatMap_append, List.flatMap_cons, hstores]
    refine Dict.get?_writeAll_of_last _ fun entry hentry heq => ?_
    obtain ⟨u, hu, hmem⟩ := List.mem_flatMap.mp hentry
    obtain ⟨hlater, -, hname⟩ := of_mem_stores hmem
    rw [hlast u hu (resultKey_inj.mp (hname.symm.trans heq))] at hlater
    cases hlater
  mem_output_keys := by
    intro key
    rw [h.output, Dict.mem_keys_writeAll]
    constructor
    · rintro (hempty | ⟨entry, hentry, rfl⟩)
      · exact absurd hempty List.not_mem_nil
      · obtain ⟨v, hv, hmem⟩ := List.mem_flatMap.mp hentry
        obtain ⟨hkind, hkey⟩ := of_mem_outputs hmem
        exact ⟨v, hv, hkind, hkey.symm⟩
    · rintro ⟨v, hv, hkind, rfl⟩
      have hentry : (outputKey v.node, outputValue v.node v.before.state.scope) ∈ outputs v := by
        simp [outputs, hkind]
      exact .inr ⟨_, List.mem_flatMap.mpr ⟨v, hv, hentry⟩, rfl⟩
  output_last := by
    intro before after v hvisits hkind hlast
    have houtputs : outputs v = [(outputKey v.node, outputValue v.node v.before.state.scope)] :=
      if_pos hkind
    rw [h.output, hvisits, List.flatMap_append, List.flatMap_cons, houtputs]
    refine Dict.get?_writeAll_of_last _ fun entry hentry heq => ?_
    obtain ⟨u, hu, hmem⟩ := List.mem_flatMap.mp hentry
    obtain ⟨hother, hkey⟩ := of_mem_outputs hmem
    exact hlast u hu hother (hkey.symm.trans heq)

end Setup

end Flowscript
