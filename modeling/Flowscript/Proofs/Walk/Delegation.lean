import Flowscript.Proofs.Walk.Exchanges

/-!
# Delegated work

An agent, a function or a prompt node leaves its work to a collaborator. It makes one call, unless
the collaborator is missing or a function node has no object to call with; and it ends in one of
five ways, which are stated here once with the call that was made and the cause that was given.
-/

namespace Flowscript

/-- Whether a node leaves its work to a collaborator. -/
def Node.delegates (n : Node) : Prop :=
  n.kind = .agent ∨ n.kind = .function ∨ n.kind = .prompt

/-- Whether a function node has no object to call with. -/
def Node.unfit (n : Node) (scope : Scope) : Prop :=
  n.kind = .function ∧ (Parameter.resolve scope (n.param "input" "\x7b\x7d")).object? = none

namespace Setup

/-- Whether the collaborator is missing that a node leaves its work to. -/
def lacks (setup : Setup) (n : Node) : Prop :=
  n.kind = .agent ∧ setup.collaborators.agents.get? (n.param "name" "") = none ∨
    n.kind = .function ∧ setup.collaborators.functions.get? (n.param "name" "") = none ∨
    n.kind = .prompt ∧ setup.collaborators.prompt = none

/-- The call that a node makes in a scope: to the collaborator that it names, with its input as it
stands in the scope, or with the prompt that it makes there. -/
def call? (setup : Setup) (n : Node) (scope : Scope) : Option Call :=
  let callee := n.param "name" ""
  let input := Parameter.resolve scope (n.param "input" "\x7b\x7d")
  match n.kind with
  | .agent => (setup.collaborators.agents.get? callee).map fun _ => .agent callee input
  | .function =>
    (setup.collaborators.functions.get? callee).bind fun _ => input.object?.map (.function callee)
  | .prompt => setup.collaborators.prompt.map fun _ => .prompt (n.promptIn scope)
  | .input | .condition | .output => none

/-- The call of an exchange is that of the node. -/
theorem map_call_exchange? (setup : Setup) (n : Node) (p : Progress) :
    (setup.exchange? n p).map Exchange.call = setup.call? n p.state.scope := by
  unfold exchange? call?
  cases n.kind with
  | agent | prompt => simp [exchangeWith, Function.comp_def]
  | function => simp [exchangeWith, Option.map_bind, Function.comp_def]
  | input | condition | output => rfl

theorem call?_of_not_delegates {n : Node} (setup : Setup) (scope : Scope) (h : ¬ n.delegates) :
    setup.call? n scope = none := by
  unfold call?
  cases hkind : n.kind with
  | input | condition | output => rfl
  | agent | function | prompt => exact absurd (by simp [Node.delegates, hkind]) h

/-- A node that delegates its work makes its call unless it cannot. -/
theorem exists_call?_iff (setup : Setup) (n : Node) (scope : Scope) :
    (∃ call, setup.call? n scope = some call) ↔
      n.delegates ∧ ¬ setup.lacks n ∧ ¬ n.unfit scope := by
  unfold call? Node.delegates lacks Node.unfit
  cases hkind : n.kind with
  | input | condition | output => simp
  | agent | prompt | function =>
    simp [← Option.isSome_iff_exists, Option.isSome_iff_ne_none]

/-- How the work of a node that delegates it may end: without a call, which it cannot make, or with
the call, which takes too long, fails or is answered. -/
inductive Delegates (setup : Setup) (n : Node) (p : Progress) : Outcome Unit → Prop
  | unregistered (kind : CollaboratorKind) (callee : String)
      (hcall : setup.call? n p.state.scope = none) :
      Delegates setup n p (.stopped (.unregistered kind callee) p)
  | unfit (callee : String) (input : Value) (hkind : n.kind = .function)
      (hcall : setup.call? n p.state.scope = none) :
      Delegates setup n p (.stopped (.collaboratorFailed n.name callee
        ("function input must be an object, got " ++ input.typeName) p.state.trace) p)
  | late (callee : String) (seconds : Nat) {call : Call}
      (hcall : setup.call? n p.state.scope = some call) :
      Delegates setup n p (.stopped (.collaboratorTimeout n.name callee seconds) (p.note call))
  | failed (callee message : String) {call : Call}
      (hcall : setup.call? n p.state.scope = some call) :
      Delegates setup n p
        (.stopped (.collaboratorFailed n.name callee message p.state.trace) (p.note call))
  | answered (answer : Value) {call : Call} (hcall : setup.call? n p.state.scope = some call) :
      Delegates setup n p (.ok () ((p.note call).setResult n.name answer))

theorem delegates_work {n : Node} (setup : Setup) (p : Progress) (h : n.delegates) :
    Delegates setup n p (setup.work n p) := by
  have hmap := setup.map_call_exchange? n p
  cases hexchange : setup.exchange? n p with
  | some x =>
    rw [hexchange, Option.map_some] at hmap
    rw [work_of_exchange? hexchange]
    by_cases hlate : x.Late
    · rw [Exchange.settled_of_late hlate]
      exact .late x.callee x.seconds hmap.symm
    · cases houtcome : x.reply.outcome with
      | error e =>
        rw [Exchange.settled_of_error hlate houtcome]
        exact .failed x.callee e.message hmap.symm
      | ok v =>
        rw [Exchange.settled_of_ok hlate houtcome]
        exact .answered v hmap.symm
  | none =>
    rw [hexchange, Option.map_none] at hmap
    unfold exchange? at hexchange
    rcases h with hkind | hkind | hkind
    · simp only [hkind, Option.map_eq_none_iff] at hexchange
      simp only [work, hkind, agentWork, hexchange]
      exact .unregistered _ _ hmap.symm
    · simp only [hkind, Option.bind_eq_none_iff, Option.map_eq_none_iff] at hexchange
      simp only [work, hkind, functionWork]
      split
      · exact .unregistered _ _ hmap.symm
      · next hfunction =>
        have hinput := hexchange _ hfunction
        split
        · next hparams =>
          rw [hparams] at hinput
          cases hinput
        · exact .unfit _ _ hkind hmap.symm
    · simp only [hkind, Option.map_eq_none_iff] at hexchange
      simp only [work, hkind, promptWork, hexchange]
      exact .unregistered _ _ hmap.symm

/-- A node that delegates its work and has no exchange stops the run. -/
theorem exists_stopped_of_exchange?_eq_none {setup : Setup} {n : Node} {p : Progress}
    (hdelegates : n.delegates) (h : setup.exchange? n p = none) :
    ∃ cause, setup.work n p = .stopped cause p := by
  have hcall : setup.call? n p.state.scope = none := by
    rw [← map_call_exchange?, h, Option.map_none]
  have hwork := setup.delegates_work p hdelegates
  generalize setup.work n p = o at hwork
  cases hwork with
  | unregistered | unfit => exact ⟨_, rfl⟩
  | late _ _ hsome | failed _ _ hsome | answered _ hsome => cases hcall.symm.trans hsome

end Setup

end Flowscript
