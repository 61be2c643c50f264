import Flowscript.Run.Dispatch

/-!
# Exchanges with collaborators

A node that delegates its work has one exchange with a collaborator, unless it cannot make its call.
What the work of the node comes to is decided by the reply alone: late, it stops the run as a
timeout; in time, an error stops the run as a failure of the collaborator, and an answer becomes the
result of the node.
-/

namespace Flowscript

/-- A reply whose answer is made into something else. -/
def Reply.map {α β : Type} (f : α → β) (reply : Reply α) : Reply β :=
  { delay := reply.delay, outcome := reply.outcome.map f }

/-- The prompt that a node makes in a scope: its templates and the name of its model as they stand
there, and the numbers among its parameters. -/
def Node.promptIn (n : Node) (scope : Scope) : PromptRequest where
  node := n.name
  system := Setup.rendered scope (n.param "system" "")
  user := Setup.rendered scope (n.param "user" "")
  model := (n.param? "model").map (Setup.rendered scope)
  temperature := (n.param? "temperature").bind fun text =>
    Numeral.readFloat32? (Text.trim text.toList)
  maxTokens := (n.param? "max_tokens").bind fun text => Setup.word32? (Text.trim text.toList)

/-- A call that a node makes: whom it calls, the seconds that it grants, and the reply that it gets,
with the answer as it becomes the result of the node. -/
structure Exchange where
  callee : String
  call : Call
  seconds : Nat
  reply : Reply Value

namespace Exchange

/-- Whether the reply takes more than the seconds that are granted for it. -/
def Late (x : Exchange) : Prop :=
  x.seconds ≠ 0 ∧ x.seconds * 1000 < x.reply.wait

/-- What a node makes of the reply. -/
def settled (x : Exchange) (node : String) (trace : Trace) : Except Failure Value :=
  Setup.settle node x.callee x.seconds trace x.reply

variable {x : Exchange} {node : String} {trace : Trace}

theorem settled_of_late (h : x.Late) :
    x.settled node trace = .error (.collaboratorTimeout node x.callee x.seconds) := by
  unfold settled Setup.settle Late at *
  rw [if_pos h]

theorem settled_of_error {e : Failure} (htime : ¬ x.Late) (h : x.reply.outcome = .error e) :
    x.settled node trace =
      .error (.collaboratorFailed node x.callee e.message trace) := by
  unfold settled Setup.settle Late at *
  rw [if_neg htime, h]

theorem settled_of_ok {v : Value} (htime : ¬ x.Late) (h : x.reply.outcome = .ok v) :
    x.settled node trace = .ok v := by
  unfold settled Setup.settle Late at *
  rw [if_neg htime, h]

/-- Only an answer in time is one. -/
theorem outcome_of_settled {v : Value} (h : x.settled node trace = .ok v) :
    x.reply.outcome = .ok v := by
  by_cases hlate : x.Late
  · rw [settled_of_late hlate] at h
    cases h
  · cases houtcome : x.reply.outcome with
    | error e =>
      rw [settled_of_error hlate houtcome] at h
      cases h
    | ok w =>
      rw [settled_of_ok hlate houtcome] at h
      exact h ▸ rfl

end Exchange

namespace Setup

variable {setup : Setup} {n : Node} {p : Progress} {x : Exchange}

/-- The exchange with a collaborator, given what becomes of its answers. -/
def exchangeWith {ι ω : Type} (setup : Setup) (callee : String) (c : Collaborator ι ω) (call : Call)
    (input : ι) (result : ω → Value) (p : Progress) : Exchange :=
  { callee, call, seconds := c.timeout.getD setup.limits.timeout
    reply := (c.answer p.calls input).map result }

/-- The exchange that a node has with the collaborator that it names, if it can make its call. The
collaborator may look at the calls so far. -/
def exchange? (setup : Setup) (n : Node) (p : Progress) : Option Exchange :=
  let callee := n.param "name" ""
  let input := Parameter.resolve p.state.scope (n.param "input" "\x7b\x7d")
  match n.kind with
  | .agent => (setup.collaborators.agents.get? callee).map fun agent =>
    setup.exchangeWith callee agent (.agent callee input) input id p
  | .function => (setup.collaborators.functions.get? callee).bind fun function =>
    input.object?.map fun params =>
      setup.exchangeWith callee function (.function callee params) params id p
  | .prompt => setup.collaborators.prompt.map fun executor =>
    let r := n.promptIn p.state.scope
    setup.exchangeWith "prompt" executor (.prompt r) r (fun response => .object (.ofList
      [("system_prompt", .string r.system), ("user_prompt", .string r.user),
        ("response", .string response)])) p
  | .input | .condition | .output => none

theorem request_eq (scope : Scope) (n : Node) : request scope n = n.promptIn scope := rfl

theorem exchange?_entered (setup : Setup) (n : Node) (p : Progress) :
    setup.exchange? n (setup.entered n p) = setup.exchange? n p := rfl

theorem settle_map {ω : Type} (node callee : String) (seconds : Nat) (trace : Trace)
    (reply : Reply ω) (f : ω → Value) : settle node callee seconds trace (reply.map f) =
      (settle node callee seconds trace reply).map f := by
  unfold settle Reply.map Reply.wait
  dsimp only
  split
  · rfl
  · cases reply.outcome <;> rfl

/-- The work of a node that has an exchange. -/
theorem work_of_exchange? (h : setup.exchange? n p = some x) :
    setup.work n p = match x.settled n.name p.state.trace with
      | .error cause => .stopped cause (p.note x.call)
      | .ok v => .ok () ((p.note x.call).setResult n.name v) := by
  unfold exchange? at h
  unfold Exchange.settled
  cases hkind : n.kind with
  | input | condition | output => simp [hkind] at h
  | agent =>
    simp only [hkind, Option.map_eq_some_iff] at h
    obtain ⟨agent, hagent, rfl⟩ := h
    simp only [work, hkind, agentWork, hagent, exchangeWith, settle_map, consult]
    cases settle _ _ _ _ (agent.answer p.calls _) <;> rfl
  | function =>
    simp only [hkind, Option.bind_eq_some_iff, Option.map_eq_some_iff] at h
    obtain ⟨function, hfunction, params, hparams, rfl⟩ := h
    have hinput := Value.object?_eq_some hparams
    simp only [work, hkind, functionWork, hfunction, hinput, exchangeWith, settle_map, consult]
    cases settle _ _ _ _ (function.answer p.calls _) <;> rfl
  | prompt =>
    simp only [hkind, Option.map_eq_some_iff] at h
    obtain ⟨executor, hexecutor, rfl⟩ := h
    simp only [work, hkind, promptWork, hexecutor, request_eq, exchangeWith, settle_map, consult]
    cases settle _ _ _ _ (executor.answer p.calls _) <;> rfl

end Setup

end Flowscript
