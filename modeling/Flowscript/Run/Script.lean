import Flowscript.Run.Setup

/-!
# Scripted collaborators

A script says what a collaborator replies and after what time. Scripted collaborators stand in for
real ones where a workflow is tried out.
-/

namespace Flowscript

/-- What a scripted collaborator replies: its input, a fixed value, a failure of its own or of its
settings, or a description of its input. -/
inductive Answer where
  | echo
  | fixed (value : Value)
  | fail (message : String)
  | misconfigured (message : String)
  | describe

/-- A reply, the milliseconds before it, and the seconds it may take. -/
structure Script where
  answer : Answer
  delay : Nat
  timeout : Option Nat

namespace Script

/-- The script that replies at once and without a time of its own. -/
def immediate (answer : Answer) : Script :=
  { answer, delay := 0, timeout := none }

/-- The outcome of an answer, given the input as a value and its description. -/
def outcome (input description : Value) : Answer → Except Failure Value
  | .echo => .ok input
  | .fixed value => .ok value
  | .fail message => .error (.collaborator message)
  | .misconfigured message => .error (.config message)
  | .describe => .ok description

/-- An agent with a script; it describes its input by the name of its type. -/
def agent (s : Script) : Agent :=
  .pure (fun input => outcome input (.string input.typeName) s.answer) s.delay s.timeout

/-- A function with a script; it describes its input by the number of parameters. -/
def function (s : Script) : NamedFunction :=
  .pure (fun params => outcome (.object params) (.int (.ofNat params.size)) s.answer) s.delay
    s.timeout

end Script

/-- What a scripted prompt executor replies: the prompt of the user, a fixed text, or a failure. -/
inductive PromptAnswer where
  | echo
  | fixed (text : String)
  | fail (message : String)

namespace PromptAnswer

/-- The outcome of an answer. -/
def outcome (r : PromptRequest) : PromptAnswer → Except Failure String
  | echo => .ok r.user
  | fixed text => .ok text
  | fail message => .error (.collaborator message)

/-- A prompt executor with a script. -/
def executor (answer : PromptAnswer) (delay : Nat) : PromptExecutor :=
  .pure (fun r => outcome r answer) delay none

end PromptAnswer

/-- The collaborators of a trial: an agent and a function under the name `echo` and a prompt
executor, each of which answers with its input. -/
def Collaborators.echo : Collaborators :=
  { agents := Registry.empty.insert "echo" (Script.agent (.immediate .echo))
    functions := Registry.empty.insert "echo" (Script.function (.immediate .echo))
    prompt := some (PromptAnswer.echo.executor 0) }

end Flowscript
