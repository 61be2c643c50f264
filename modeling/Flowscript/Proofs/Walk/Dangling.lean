import Flowscript.Proofs.Dict
import Flowscript.Proofs.Walk.Cycles
import Flowscript.Proofs.Walk.Headings

/-!
# Dangling names

The names at the ends of edges that no node has can be listed without a run. A run never looks up
any other unknown name: it starts from nodes, and from there on it goes along edges. So if the list
is empty no run fails for an unknown name. The main statement is `mem_dangling_of_nodeNotFound`.
-/

namespace Flowscript

namespace Workflow

variable {w : Workflow} {name : String}

theorem mem_endpoints : name ∈ w.endpoints ↔ ∃ e ∈ w.edges, e.source = name ∨ e.target = name := by
  simp [endpoints, eq_comm]

theorem defines_eq_false_iff : w.defines name = false ↔ ∀ n ∈ w.nodes, n.name ≠ name := by
  simp [defines]

theorem node?_eq_none_iff : w.node? name = none ↔ ∀ n ∈ w.nodes, n.name ≠ name := by
  simp [node?]

theorem pairwise_dangling (w : Workflow) : w.dangling.Pairwise (· < ·) :=
  Dict.ascending_ofList _

theorem mem_dangling : name ∈ w.dangling ↔
    (∃ e ∈ w.edges, e.source = name ∨ e.target = name) ∧ ∀ n ∈ w.nodes, n.name ≠ name := by
  rw [← mem_endpoints, ← defines_eq_false_iff, dangling, Dict.mem_keys_ofList]
  simp

end Workflow

namespace Setup

variable {setup : Setup} {p q : Progress} {stack : List Frame} {name : String}

/-- A name that a run heads for is that of an input node, or an edge leads to it from a node that
the run has entered. -/
theorem HeadsFor.input_or_exists_edge (h : setup.HeadsFor p stack q name) :
    (∃ n ∈ setup.workflow.nodes, n.name = name) ∨
      ∃ e ∈ setup.workflow.edges, e.target = name ∧ e.source ∈ q.state.path := by
  cases h with
  | input hwalk =>
    obtain ⟨n, hn, hname⟩ := hwalk.exists_mem
    exact .inl ⟨n, (List.mem_filter.mp hn).1, hname⟩
  | edge hwalk hcomes hnext hfollow =>
    obtain ⟨-, -, hsource⟩ := Frame.leaving_of_next?_some hnext
    obtain ⟨hpending, -⟩ := Frame.pending_of_next? hnext
    have hedge := hcomes.wellFormed.pending List.mem_cons_self hpending
    refine .inr ⟨_, hedge, rfl, ?_⟩
    rw [hsource]
    exact hcomes.linked.entered List.mem_cons_self

/-- A run that fails for an unknown name has followed an edge to it from a node that it had
entered. -/
theorem exists_edge_of_nodeNotFound {workflow node : String}
    (h : setup.execute p = .stopped (.nodeNotFound workflow node) q) :
    workflow = setup.workflow.name ∧ (∀ n ∈ setup.workflow.nodes, n.name ≠ node) ∧
      ∃ e ∈ setup.workflow.edges, e.target = node ∧ e.source ∈ q.state.path := by
  obtain ⟨hcause, -⟩ | ⟨stack, r, name, hheads, ⟨path, hcause, -⟩ | ⟨hpath, hdispatch⟩⟩ :=
    exists_headsFor_of_stopped h
  · cases hcause
  · cases hcause
  have hcases := setup.dispatches_dispatch name r
  rw [hdispatch] at hcases
  cases hcases with
  | unknown hnode =>
    rw [Workflow.node?_eq_none_iff] at hnode
    obtain ⟨n, hn, hname⟩ | hedge := hheads.input_or_exists_edge
    · exact absurd hname (hnode n hn)
    · exact ⟨rfl, hnode, hedge⟩
  | refused hnode hrefusal =>
    obtain ⟨visits, hvisits⟩ := exists_of_refusal? hrefusal
    cases hvisits
  | failed hnode hadmitted hwork => cases isOfWork_of_work hwork

/-- The dangling names of a workflow are those at the ends of its edges that no node has, in
strictly ascending order. A run that fails for an unknown name names one of them, which is the
target of an edge that leaves a node it has entered. Without dangling names no run fails in this
way, whatever the collaborators, the limits and the state are that it starts with. -/
theorem mem_dangling_of_nodeNotFound (setup : Setup) (p : Progress) :
    setup.workflow.dangling.Pairwise (· < ·) ∧
    (∀ name, name ∈ setup.workflow.dangling ↔
      (∃ e ∈ setup.workflow.edges, e.source = name ∨ e.target = name) ∧
        ∀ n ∈ setup.workflow.nodes, n.name ≠ name) ∧
    (∀ workflow node q, setup.execute p = .stopped (.nodeNotFound workflow node) q →
      workflow = setup.workflow.name ∧ node ∈ setup.workflow.dangling ∧
        ∃ e ∈ setup.workflow.edges, e.target = node ∧ e.source ∈ q.state.path) ∧
    (setup.workflow.dangling = [] → ∀ workflow node q,
      setup.execute p ≠ .stopped (.nodeNotFound workflow node) q) := by
  have hfails {workflow node : String} {q : Progress}
      (h : setup.execute p = .stopped (.nodeNotFound workflow node) q) :
      workflow = setup.workflow.name ∧ node ∈ setup.workflow.dangling ∧
        ∃ e ∈ setup.workflow.edges, e.target = node ∧ e.source ∈ q.state.path := by
    obtain ⟨hworkflow, hnode, e, he, htarget, hsource⟩ := exists_edge_of_nodeNotFound h
    refine ⟨hworkflow, ?_, e, he, htarget, hsource⟩
    exact Workflow.mem_dangling.mpr ⟨⟨e, he, .inr htarget⟩, hnode⟩
  refine ⟨setup.workflow.pairwise_dangling, fun name => Workflow.mem_dangling, ?_, ?_⟩
  · intro workflow node q h
    exact hfails h
  · intro hnil workflow node q h
    obtain ⟨-, hmem, -⟩ := hfails h
    rw [hnil] at hmem
    exact absurd hmem List.not_mem_nil

/-- A workflow with a condition from which both edges lead to unknown names. -/
def ghostly : Setup :=
  { workflow :=
      { name := "ghostly"
        nodes := [{ name := "in", kind := .input, params := ∅ },
          { name := "gate", kind := .condition, params := ∅ }]
        edges := [⟨"in", "gate", .always⟩, ⟨"gate", "spook", .whenFalse⟩,
          ⟨"gate", "ghost", .whenTrue⟩]
        vars := ∅ }
    collaborators := .none, limits := .standard, run := ⟨"r"⟩ }

/-- How a run of the workflow ends. -/
def ghostlyEnd : Outcome Unit :=
  ghostly.execute (.start (.fresh ∅ ∅) #[])

/-- The workflow and the name that a failure reports as unknown. -/
def reportedName? : Failure → Option (String × String)
  | .nodeNotFound workflow node => some (workflow, node)
  | _ => none

theorem mem_dangling_of_nodeNotFound_ghostly :
    ghostlyEnd = .stopped (.nodeNotFound "ghostly" "ghost") ghostlyEnd.progress ∧
    ghostly.workflow.dangling = ["ghost", "spook"] ∧ "ghost" ∈ ghostly.workflow.dangling ∧
    ∃ e ∈ ghostly.workflow.edges,
      e.target = "ghost" ∧ e.source ∈ ghostlyEnd.progress.state.path := by
  have hname : ghostlyEnd.cause?.bind reportedName? = some ("ghostly", "ghost") := by
    decide +kernel
  have hend : ghostlyEnd = .stopped (.nodeNotFound "ghostly" "ghost") ghostlyEnd.progress := by
    obtain ⟨cause, hcause, hend⟩ := Outcome.exists_eq_stopped hname
    cases cause <;> cases hcause
    exact hend
  obtain ⟨-, -, hfails, -⟩ := mem_dangling_of_nodeNotFound ghostly (.start (.fresh ∅ ∅) #[])
  obtain ⟨-, hmem, hedge⟩ := hfails _ _ _ hend
  exact ⟨hend, by decide +kernel, hmem, hedge⟩

end Setup

end Flowscript
