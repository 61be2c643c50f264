import Flowscript.Condition.Evaluate
import Flowscript.Decimal.Binary
import Flowscript.Run.Parameter
import Flowscript.Run.Progress
import Flowscript.Run.Setup
import Flowscript.Run.Template

/-!
# The work of a node

What a node does once a run has entered it. An input does nothing, an output writes a value, a
condition stores its truth, and the others store the answer of a collaborator. A condition without a
value counts as false, and the run goes on; a collaborator that is missing, fails or takes too long
stops it.
-/

namespace Flowscript

namespace Setup

/-- What the reply of a collaborator comes to, if it has some seconds for it. -/
def settle {ω : Type} (node callee : String) (seconds : Nat) (trace : Trace) (reply : Reply ω) :
    Except Failure ω :=
  if seconds ≠ 0 ∧ seconds * 1000 < reply.wait then
    .error (.collaboratorTimeout node callee seconds)
  else
    match reply.outcome with
    | .error e => .error (.collaboratorFailed node callee e.message trace)
    | .ok answer => .ok answer

/-- Calls a collaborator for a node. -/
def consult {ι ω : Type} (setup : Setup) (node callee : String) (c : Collaborator ι ω) (call : Call)
    (input : ι) (p : Progress) : Outcome ω :=
  let seconds := c.timeout.getD setup.limits.timeout
  match settle node callee seconds p.state.trace (c.answer p.calls input) with
  | .error cause => .stopped cause (p.note call)
  | .ok answer => .ok answer (p.note call)

/-- The progress with the answer of a collaborator as the result of a node. -/
def storing (node : String) : Outcome Value → Outcome Unit
  | .stopped cause p => .stopped cause p
  | .ok answer p => .ok () (p.setResult node answer)

/-- The work of an agent node. -/
def agentWork (setup : Setup) (n : Node) (p : Progress) : Outcome Unit :=
  let callee := n.param "name" ""
  match setup.collaborators.agents.get? callee with
  | none => .stopped (.unregistered .agent callee) p
  | some agent =>
    let input := Parameter.resolve p.state.scope (n.param "input" "\x7b\x7d")
    storing n.name (setup.consult n.name callee agent (.agent callee input) input p)

/-- The work of a function node, whose input has to be an object. -/
def functionWork (setup : Setup) (n : Node) (p : Progress) : Outcome Unit :=
  let callee := n.param "name" ""
  match setup.collaborators.functions.get? callee with
  | none => .stopped (.unregistered .function callee) p
  | some function =>
    match Parameter.resolve p.state.scope (n.param "input" "\x7b\x7d") with
    | .object params =>
      storing n.name (setup.consult n.name callee function (.function callee params) params p)
    | other =>
      let text := "function input must be an object, got " ++ other.typeName
      .stopped (.collaboratorFailed n.name callee text p.state.trace) p

/-- A template with its placeholders replaced. -/
def rendered (scope : Scope) (template : String) : String :=
  String.ofList (Template.render scope template.toList)

/-- The number of 32 bits that a text denotes. -/
def word32? (cs : List Char) : Option UInt32 :=
  (Digits.nat? cs).bind fun n => if n < UInt32.size then some (.ofNat n) else none

/-- The request of a prompt node. A temperature or token count that is no number is left out. -/
def request (scope : Scope) (n : Node) : PromptRequest :=
  { node := n.name
    system := rendered scope (n.param "system" "")
    user := rendered scope (n.param "user" "")
    model := (n.param? "model").map (rendered scope)
    temperature := (n.param? "temperature").bind fun text =>
      Numeral.readFloat32? (Text.trim text.toList)
    maxTokens := (n.param? "max_tokens").bind fun text => word32? (Text.trim text.toList) }

/-- The result of a prompt node. -/
def promptResult (r : PromptRequest) (response : String) : Value :=
  .object (.ofList [("system_prompt", .string r.system), ("user_prompt", .string r.user),
    ("response", .string response)])

/-- The work of a prompt node. -/
def promptWork (setup : Setup) (n : Node) (p : Progress) : Outcome Unit :=
  match setup.collaborators.prompt with
  | none => .stopped (.unregistered .prompt n.name) p
  | some executor =>
    let r := request p.state.scope n
    match setup.consult n.name "prompt" executor (.prompt r) r p with
    | .stopped cause p => .stopped cause p
    | .ok response p => .ok () (p.setResult n.name (promptResult r response))

/-- The progress with a condition that had no value. -/
def noteFault (setup : Setup) (n : Node) (expression : String) (fault : Condition.Fault)
    (p : Progress) : Progress :=
  let message := (Failure.conditionFailed expression fault.message).message
  (p.report (.conditionFailed setup.run setup.workflow.name n.name expression message)).withState
    (p.state.recordError { node := n.name, expression, message })

/-- The work of a condition node. -/
def conditionWork (setup : Setup) (n : Node) (p : Progress) : Progress :=
  let expression := n.param "expression" "true"
  match Condition.holds p.state.scope expression.toList with
  | .ok truth => p.setResult n.name (.bool truth)
  | .error fault => (setup.noteFault n expression fault p).setResult n.name (.bool false)

/-- The work of an output node. -/
def outputWork (n : Node) (p : Progress) : Progress :=
  p.withState (p.state.write (n.param "key" "result")
    (Parameter.resolve p.state.scope (n.param "value" "\x7b\x7d")))

/-- The work of a node. -/
def work (setup : Setup) (n : Node) (p : Progress) : Outcome Unit :=
  match n.kind with
  | .input => .ok () p
  | .agent => setup.agentWork n p
  | .function => setup.functionWork n p
  | .prompt => setup.promptWork n p
  | .condition => .ok () (setup.conditionWork n p)
  | .output => .ok () (outputWork n p)

end Setup

end Flowscript
