import Flowscript.Proofs.Walk.Delegation
import Flowscript.Run.Weight

/-!
# What a dispatch does

A dispatch is refused, or it enters a node and does its work. The forms of either are stated here
once with all that holds in them. From them follows what a dispatch leaves alone: it changes no
variable but the one that holds the result of its own node.
-/

namespace Flowscript

/-- Different nodes store their results under different names. -/
@[simp] theorem resultKey_inj {m n : String} : resultKey m = resultKey n ↔ m = n := by
  refine ⟨fun h => ?_, fun h => h ▸ rfl⟩
  have hchars : m.toList ++ "_result".toList = n.toList ++ "_result".toList := by
    simpa [resultKey] using congrArg String.toList h
  exact String.toList_inj.1 (List.append_cancel_right hchars)

namespace Progress

variable (p : Progress)

@[simp] theorem state_withState (s : RunState) : (p.withState s).state = s := rfl

@[simp] theorem state_report (e : Event) : (p.report e).state = p.state := rfl

@[simp] theorem state_note (c : Call) : (p.note c).state = p.state := rfl

@[simp] theorem state_setResult (node : String) (v : Value) :
    (p.setResult node v).state = p.state.setResult node v := rfl

end Progress

namespace RunState

variable (s : RunState)

@[simp] theorem scope_enter (node : String) : (s.enter node).scope = s.scope := rfl

@[simp] theorem vars_enter (node : String) : (s.enter node).vars = s.vars := rfl

@[simp] theorem vars_write (key : String) (v : Value) : (s.write key v).vars = s.vars := rfl

@[simp] theorem vars_recordError (e : ConditionError) : (s.recordError e).vars = s.vars := rfl

@[simp] theorem vars_setResult (node : String) (v : Value) :
    (s.setResult node v).vars = s.vars.insert (resultKey node) v := rfl

end RunState

/-- The truth that a condition node comes to. Without a value it counts as false. -/
def Node.truth (n : Node) (scope : Scope) : Bool :=
  match Condition.holds scope (n.param "expression" "true").toList with
  | .ok truth => truth
  | .error _ => false

namespace Setup

/-- How the work of a node may end. A node that delegates its work is refused before its call, or
fails in it, or stores the answer. -/
inductive Works (setup : Setup) (n : Node) (p : Progress) : Outcome Unit → Prop
  | input (hkind : n.kind = .input) : Works setup n p (.ok () p)
  | output (hkind : n.kind = .output) : Works setup n p (.ok () (outputWork n p))
  | condition (hkind : n.kind = .condition) : Works setup n p (.ok () (setup.conditionWork n p))
  | refused (hkind : n.delegates) (cause : Failure) : Works setup n p (.stopped cause p)
  | failed (hkind : n.delegates) (call : Call) (cause : Failure) :
      Works setup n p (.stopped cause (p.note call))
  | answered (hkind : n.delegates) (call : Call) (answer : Value) :
      Works setup n p (.ok () ((p.note call).setResult n.name answer))

theorem works_work (setup : Setup) (n : Node) (p : Progress) :
    Works setup n p (setup.work n p) := by
  by_cases hdelegates : n.delegates
  · have hwork := setup.delegates_work p hdelegates
    generalize setup.work n p = o at hwork ⊢
    cases hwork with
    | unregistered | unfit => exact .refused hdelegates _
    | late | failed => exact .failed hdelegates _ _
    | answered answer => exact .answered hdelegates _ answer
  · cases hkind : n.kind with
    | input => simpa only [work, hkind] using .input hkind
    | output => simpa only [work, hkind] using .output hkind
    | condition => simpa only [work, hkind] using .condition hkind
    | agent | function | prompt => exact absurd (by simp [Node.delegates, hkind]) hdelegates

/-- How a dispatch may end. A node that is unknown or over a limit is not entered. -/
inductive Dispatches (setup : Setup) (name : String) (p : Progress) : Outcome Node → Prop
  | unknown (hnode : setup.workflow.node? name = none) :
      Dispatches setup name p (.stopped (.nodeNotFound setup.workflow.name name) p)
  | refused {n : Node} {cause : Failure} (hnode : setup.workflow.node? name = some n)
      (hrefusal : setup.refusal? name p.state = some cause) :
      Dispatches setup name p (.stopped cause p)
  | failed {n : Node} {cause : Failure} {q : Progress}
      (hnode : setup.workflow.node? name = some n) (hadmitted : setup.refusal? name p.state = none)
      (hwork : setup.work n (setup.entered n p) = .stopped cause q) :
      Dispatches setup name p (.stopped cause q)
  | completed {n : Node} {q : Progress} (hnode : setup.workflow.node? name = some n)
      (hadmitted : setup.refusal? name p.state = none)
      (hwork : setup.work n (setup.entered n p) = .ok () q) :
      Dispatches setup name p
        (.ok n (q.report (.nodeCompleted setup.run setup.workflow.name n.name)))

theorem dispatches_dispatch (setup : Setup) (name : String) (p : Progress) :
    Dispatches setup name p (setup.dispatch name p) := by
  unfold dispatch
  split
  · next hnode => exact .unknown hnode
  · next n hnode =>
    split
    · next hrefusal => exact .refused hnode hrefusal
    · next hadmitted =>
      unfold perform
      split
      · next hwork => exact .failed hnode hadmitted hwork
      · next hwork => exact .completed hnode hadmitted hwork

@[simp] theorem state_entered (setup : Setup) (n : Node) (p : Progress) :
    (setup.entered n p).state = p.state.enter n.name := rfl

theorem state_conditionWork (setup : Setup) (n : Node) (p : Progress) :
    (setup.conditionWork n p).state.vars =
      p.state.vars.insert (resultKey n.name) (.bool (n.truth p.state.scope)) := by
  unfold conditionWork Node.truth
  dsimp only
  split <;> simp [noteFault, *]

/-- The work of a node changes variables, output and recorded errors, and nothing else. -/
theorem exists_state_work (setup : Setup) (n : Node) (p : Progress) :
    ∃ vars output conditionErrors, (setup.work n p).progress.state =
      { p.state with vars, output, conditionErrors } := by
  have hwork := setup.works_work n p
  generalize setup.work n p = o at hwork ⊢
  cases hwork with
  | input | output | refused | failed | answered => exact ⟨_, _, _, rfl⟩
  | condition =>
    unfold conditionWork
    dsimp only
    split <;> exact ⟨_, _, _, rfl⟩

/-- The work of a node enters no node. -/
theorem path_work (setup : Setup) (n : Node) (p : Progress) :
    (setup.work n p).progress.state.path = p.state.path := by
  obtain ⟨vars, output, conditionErrors, hstate⟩ := setup.exists_state_work n p
  rw [hstate]

/-- A dispatch that goes through enters its node and no other. -/
theorem path_dispatch {setup : Setup} {name : String} {n : Node} {p q : Progress}
    (h : setup.dispatch name p = .ok n q) : q.state.path = p.state.path.push name := by
  have hcases := setup.dispatches_dispatch name p
  rw [h] at hcases
  cases hcases with
  | completed hnode hadmitted hwork =>
    obtain ⟨-, rfl⟩ := node?_eq_some hnode
    simpa [hwork, Outcome.progress, RunState.enter] using setup.path_work n (setup.entered n p)

/-- The work of a node changes no variable but its own result. -/
theorem get?_vars_work (setup : Setup) (n : Node) {key : String} (p : Progress)
    (hkey : key ≠ resultKey n.name) :
    (setup.work n p).progress.state.vars.get? key = p.state.vars.get? key := by
  have hwork := setup.works_work n p
  generalize setup.work n p = o at hwork ⊢
  cases hwork with
  | input | refused | failed => rfl
  | output => simp [outputWork, Outcome.progress]
  | condition => simp [Outcome.progress, state_conditionWork, hkey]
  | answered => simp [Outcome.progress, hkey]

/-- A dispatch changes no variable but the result of its own node. -/
theorem get?_vars_dispatch (setup : Setup) {name key : String} (p : Progress)
    (hkey : key ≠ resultKey name) :
    (setup.dispatch name p).progress.state.vars.get? key = p.state.vars.get? key := by
  have hdispatch := setup.dispatches_dispatch name p
  generalize setup.dispatch name p = o at hdispatch ⊢
  cases hdispatch with
  | unknown | refused => rfl
  | @failed n cause q hnode hadmitted hwork =>
    obtain ⟨-, rfl⟩ := node?_eq_some hnode
    simpa [hwork, Outcome.progress] using setup.get?_vars_work n (setup.entered n p) hkey
  | @completed n q hnode hadmitted hwork =>
    obtain ⟨-, rfl⟩ := node?_eq_some hnode
    simpa [hwork, Outcome.progress] using setup.get?_vars_work n (setup.entered n p) hkey

theorem result?_dispatch_of_ne (setup : Setup) {name other : String} (p : Progress)
    (hother : other ≠ name) :
    (setup.dispatch name p).progress.state.result? other = p.state.result? other :=
  setup.get?_vars_dispatch p (by simpa using hother)

/-- Once a condition node has been dispatched, its truth is its result. -/
theorem result?_dispatch_condition {setup : Setup} {name : String} {c : Node} {p q : Progress}
    (hkind : c.kind = .condition) (hdispatch : setup.dispatch name p = .ok c q) :
    q.state.result? name = some (.bool (c.truth p.state.scope)) := by
  have hcases := setup.dispatches_dispatch name p
  rw [hdispatch] at hcases
  cases hcases with
  | completed hnode hadmitted hwork =>
    obtain ⟨-, rfl⟩ := node?_eq_some hnode
    simp only [work, hkind, Outcome.ok.injEq, true_and] at hwork
    subst hwork
    simp [RunState.result?, state_conditionWork]

end Setup

end Flowscript
