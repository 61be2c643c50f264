import Flowscript.Proofs.Walk.Steps

/-!
# Runs with a smaller budget

A bound on all visits only cuts a run short. Two runs that differ in this bound alone go the same
way until the smaller bound refuses a node; this is `Cut`, which the steps of a run preserve one
after the other, and `execute_withBudget` says it of whole runs.
-/

namespace Flowscript

/-- How the outcome with a budget is related to that with a larger one: it is the same, or both runs
are refused a node by a limit where the budget is used up, or the run with the budget is refused a
node there which the other one enters. -/
inductive Cut (budget : Nat) {α : Type} : Outcome α → Outcome α → Prop
  | same {o : Outcome α} (hsize : o.progress.state.path.size ≤ budget) : Cut budget o o
  | refused {name : String} {visits : Nat} {p : Progress} (hsize : p.state.path.size = budget) :
      Cut budget (.stopped (.visitLimitExceeded name (budget + 1)) p)
        (.stopped (.visitLimitExceeded name visits) p)
  | short {name : String} {p : Progress} {o : Outcome α} (hsize : p.state.path.size = budget)
      (hpath : p.state.path.toList ++ [name] <+: o.progress.state.path.toList) :
      Cut budget (.stopped (.visitLimitExceeded name (budget + 1)) p) o

namespace Cut

variable {α : Type} {budget : Nat} {o o' : Outcome α}

/-- Going on keeps two outcomes related, if it does where both runs come to the same, and if the
path of the run with the larger budget only grows where that goes on alone. -/
theorem bind {β : Type} {next next' : α → Progress → Outcome β} (h : Cut budget o o')
    (hnext : ∀ a q, o' = .ok a q → q.state.path.size ≤ budget → Cut budget (next a q) (next' a q))
    (hgrows : ∀ a q, q.state.path.toList <+: (next' a q).progress.state.path.toList) :
    Cut budget (o.bind next) (o'.bind next') := by
  cases h with
  | same hsize =>
    cases o with
    | ok a q => exact hnext a q rfl hsize
    | stopped cause q => exact .same hsize
  | refused hsize => exact .refused hsize
  | short hsize hpath =>
    cases o' with
    | ok a q => exact .short hsize (hpath.trans (hgrows a q))
    | stopped cause q => exact .short hsize hpath

theorem path (h : Cut budget o o') :
    o.progress.state.path.toList = o'.progress.state.path.toList.take budget := by
  cases h with
  | same hsize => simpa using hsize
  | refused hsize => simp [hsize.le]
  | short hsize hpath =>
    have hbefore := (List.prefix_append _ _).trans hpath
    rw [← hsize]
    exact List.prefix_iff_eq_take.1 hbefore

/-- Where the run with the larger budget goes further, the other one is refused the node that it
enters next. -/
theorem exists_eq_stopped (h : Cut budget o o') (hlt : budget < o'.progress.state.path.size) :
    ∃ q, o = .stopped (.visitLimitExceeded o'.progress.state.path[budget] (budget + 1)) q := by
  cases h with
  | same hsize => omega
  | refused hsize => exact absurd hlt hsize.le.not_gt
  | @short name p _ hsize hpath =>
    obtain ⟨rest, hrest⟩ := hpath
    have hname : o'.progress.state.path[budget] = name := by
      subst hsize
      simp [← Array.getElem_toList, ← hrest]
    exact ⟨p, by rw [hname]⟩

/-- Where it does not, the runs are the same, unless a limit has stopped them. -/
theorem eq (h : Cut budget o o') (hsize : o'.progress.state.path.size ≤ budget)
    (hcause : ∀ cause, o'.cause? = some cause → cause.isVisitLimit = false) : o = o' := by
  cases h with
  | same => rfl
  | refused => exact nomatch hcause _ rfl
  | short hpsize hpath =>
    have hlength := hpath.length_le
    simp at hlength
    omega

end Cut

namespace Setup

variable {setup : Setup} {small large : Nat} {p : Progress}

/-- The setup with another bound on all visits. -/
def withBudget (setup : Setup) (budget : Nat) : Setup :=
  { setup with limits := { setup.limits with maxVisits := budget } }

@[simp] theorem workflow_withBudget (setup : Setup) (budget : Nat) :
    (setup.withBudget budget).workflow = setup.workflow := rfl

/-- What a visit does once it is allowed does not depend on the budget. -/
theorem perform_withBudget (setup : Setup) (budget : Nat) (n : Node) (p : Progress) :
    (setup.withBudget budget).perform n p = setup.perform n p := rfl

theorem size_dispatch_le (setup : Setup) (name : String) (p : Progress) :
    (setup.dispatch name p).progress.state.path.size ≤ p.state.path.size + 1 := by
  cases hdispatch : setup.dispatch name p with
  | ok n q => simp [path_dispatch hdispatch]
  | stopped cause q =>
    obtain ⟨-, rfl⟩ | ⟨-, n, -, -, hperform⟩ := dispatch_stopped hdispatch
    · simp
    · have hpath := setup.path_perform n p
      rw [hperform, Outcome.progress_stopped] at hpath
      simp [hpath]

/-! ## Steps with two budgets -/

/-- As long as the budget is not used up, it refuses nothing. -/
theorem refusal?_withBudget (setup : Setup) {budget : Nat} (name : String) {s : RunState}
    (hlt : s.path.size < budget) : (setup.withBudget budget).refusal? name s =
      if setup.limits.maxVisitsPerNode ≠ 0 ∧ setup.limits.maxVisitsPerNode ≤ s.visits name then
        some (.visitLimitExceeded name (s.visits name + 1))
      else none :=
  if_neg (Nat.not_le.2 hlt)

theorem dispatch_withBudget_eq (setup : Setup) (name : String) (hle : small ≤ large)
    (hlt : p.state.path.size < small) :
    (setup.withBudget small).dispatch name p = (setup.withBudget large).dispatch name p := by
  unfold dispatch
  rw [refusal?_withBudget _ _ hlt, refusal?_withBudget _ _ (hlt.trans_le hle)]
  simp only [workflow_withBudget, perform_withBudget]

/-- Where the smaller budget is used up, the run with it enters no other node. -/
theorem cut_dispatch_of_eq (setup : Setup) (name : String) (heq : p.state.path.size = small) :
    Cut small ((setup.withBudget small).dispatch name p)
      ((setup.withBudget large).dispatch name p) := by
  -- An unknown name is found out before any limit is looked at, so there the runs end alike.
  have hsmall : (setup.withBudget small).refusal? name p.state =
      some (.visitLimitExceeded name (small + 1)) := by
    simp [refusal?, withBudget, heq]
  unfold dispatch
  rw [workflow_withBudget, workflow_withBudget, hsmall]
  cases hnode : setup.workflow.node? name with
  | none => exact .same heq.le
  | some n =>
    obtain ⟨-, rfl⟩ := node?_eq_some hnode
    cases hlarge : (setup.withBudget large).refusal? n.name p.state with
    | some cause =>
      obtain ⟨visits, rfl⟩ := exists_of_refusal? hlarge
      exact .refused heq
    | none =>
      refine .short heq ?_
      simp [path_perform]

theorem cut_dispatch (setup : Setup) (name : String) (hle : small ≤ large)
    (hsize : p.state.path.size ≤ small) :
    Cut small ((setup.withBudget small).dispatch name p)
      ((setup.withBudget large).dispatch name p) := by
  rcases hsize.lt_or_eq with hlt | heq
  · rw [setup.dispatch_withBudget_eq name hle hlt]
    apply Cut.same
    have hstep := (setup.withBudget large).size_dispatch_le name p
    omega
  · exact setup.cut_dispatch_of_eq name heq

theorem cut_follow (setup : Setup) (target : String) (stack : List Frame) (hle : small ≤ large)
    (hsize : p.state.path.size ≤ small) :
    Cut small ((setup.withBudget small).follow target stack p).outcome
      ((setup.withBudget large).follow target stack p).outcome := by
  cases hpath : onPath target stack with
  | true =>
    simp only [follow, hpath, if_true]
    exact .same hsize
  | false =>
    rw [follow_eq_bind _ _ hpath, follow_eq_bind _ _ hpath]
    refine (setup.cut_dispatch target hle hsize).bind ?_ ?_
    · intro n q _ hq
      exact .same hq
    · intro n q
      exact List.prefix_refl _

theorem cut_turn (setup : Setup) (stack : List Frame) (hle : small ≤ large)
    (hsize : p.state.path.size ≤ small) :
    Cut small ((setup.withBudget small).turn stack p).outcome
      ((setup.withBudget large).turn stack p).outcome := by
  cases stack with
  | nil => exact .same hsize
  | cons f below =>
    cases hnext : f.next? with
    | none =>
      simp only [turn, hnext]
      exact .same hsize
    | some next =>
      obtain ⟨e, g⟩ := next
      rw [turn_of_next _ _ _ hnext, turn_of_next _ _ _ hnext]
      cases hfollow : follows g.node e p.state with
      | true => exact setup.cut_follow e.target (g :: below) hle hsize
      | false => exact .same hsize

theorem cut_finish (setup : Setup) (stack : List Frame) (hle : small ≤ large)
    (hsize : p.state.path.size ≤ small) :
    Cut small ((setup.withBudget small).finish stack p)
      ((setup.withBudget large).finish stack p) := by
  -- The weight of the stack decreases with the turns of either run.
  induction hweight : weight setup.workflow stack using Nat.strong_induction_on
    generalizing stack p with
  | _ total ih =>
    rw [finish_eq_bind, finish_eq_bind]
    refine (setup.cut_turn stack hle hsize).bind ?_ ((setup.withBudget large).prefix_path_goOn)
    intro stack? q hgo hq
    cases stack? with
    | none => exact .same hq
    | some next =>
      have hless := weight_lt_of_turn (turn_of_outcome hgo)
      exact ih _ (hweight ▸ hless) next hq rfl

theorem cut_walk (setup : Setup) (entry : String) (hle : small ≤ large)
    (hsize : p.state.path.size ≤ small) :
    Cut small ((setup.withBudget small).walk entry p)
      ((setup.withBudget large).walk entry p) := by
  rw [walk_eq_bind, walk_eq_bind]
  refine (setup.cut_dispatch entry hle hsize).bind ?_ ?_
  · intro n q _ hq
    exact setup.cut_finish _ hle hq
  · intro n q
    exact prefix_path_finish _ _ _

theorem cut_walkAll (setup : Setup) (entries : List Node) (hle : small ≤ large)
    (hsize : p.state.path.size ≤ small) :
    Cut small ((setup.withBudget small).walkAll entries p)
      ((setup.withBudget large).walkAll entries p) := by
  induction entries generalizing p with
  | nil => exact .same hsize
  | cons n more ih =>
    rw [walkAll_cons_eq_bind, walkAll_cons_eq_bind]
    refine (setup.cut_walk n.name hle hsize).bind ?_ ?_
    · intro _ q _ hq
      exact ih hq
    · intro _ q
      exact prefix_path_walkAll _ _ _

theorem cut_execute (setup : Setup) (hle : small ≤ large) (hsize : p.state.path.size ≤ small) :
    Cut small ((setup.withBudget small).execute p) ((setup.withBudget large).execute p) := by
  by_cases hinputs : setup.workflow.inputs = []
  · simp only [execute, workflow_withBudget, hinputs]
    exact .same hsize
  · rw [execute_eq_bind (setup.withBudget small) p hinputs,
      execute_eq_bind (setup.withBudget large) p hinputs]
    refine (setup.cut_walkAll _ hle hsize).bind ?_ ?_
    · intro _ q _ hq
      exact .same hq
    · intro _ q
      exact List.prefix_refl _

/-- A run with a smaller budget is cut short. Its path is the beginning of that with the larger one;
if there is more of that, the run is refused the next node, and otherwise it is the same run, unless
a limit has stopped both. -/
theorem execute_withBudget (setup : Setup) (hle : small ≤ large) (input vars : Object)
    (calls : Array Call) :
    let start := Progress.start (.fresh input vars) calls
    let o := (setup.withBudget small).execute start
    let o' := (setup.withBudget large).execute start
    o.progress.state.path.toList = o'.progress.state.path.toList.take small ∧
    (∀ hlt : small < o'.progress.state.path.size, ∃ q,
      o = .stopped (.visitLimitExceeded o'.progress.state.path[small] (small + 1)) q) ∧
    (o'.progress.state.path.size ≤ small →
      (∀ cause, o'.cause? = some cause → cause.isVisitLimit = false) → o = o') := by
  intro start o o'
  have hcut : Cut small o o' := setup.cut_execute hle (Nat.zero_le _)
  refine ⟨hcut.path, ?_, ?_⟩
  · intro hlt
    exact hcut.exists_eq_stopped hlt
  · intro hsize hcause
    exact hcut.eq hsize hcause

/-- A workflow with three nodes in a row. -/
def triple : Setup :=
  { workflow :=
      { name := "triple"
        nodes := [{ name := "in", kind := .input, params := ∅ },
          { name := "draft", kind := .output, params := ∅ },
          { name := "out", kind := .output, params := ∅ }]
        edges := [⟨"in", "draft", .always⟩, ⟨"draft", "out", .always⟩]
        vars := ∅ }
    collaborators := .none, limits := .standard, run := ⟨"r"⟩ }

theorem execute_withBudget_triple : 2 ≤ 10 ∧ ∃ q,
    (triple.withBudget 2).execute (.start (.fresh ∅ ∅) #[]) =
      .stopped (.visitLimitExceeded "out" 3) q ∧ q.state.path = #["in", "draft"] := by
  have hpath : ((triple.withBudget 10).execute (.start (.fresh ∅ ∅) #[])).progress.state.path =
      #["in", "draft", "out"] := by
    decide +kernel
  have hle : 2 ≤ 10 := by decide
  obtain ⟨htake, hstopped, -⟩ := triple.execute_withBudget hle ∅ ∅ #[]
  obtain ⟨q, hq⟩ := hstopped (by simp [hpath])
  refine ⟨hle, q, ?_, ?_⟩
  · simpa [hpath] using hq
  · simpa [hpath, hq, ← Array.toList_inj] using htake

end Setup

end Flowscript
