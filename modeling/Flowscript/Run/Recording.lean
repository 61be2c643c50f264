import Flowscript.Run.Collaborator

/-!
# Recordings

A recording watches collaborators and tells which calls each of them has received. It notes the
part of all calls during which a name was watched.
-/

namespace Flowscript

/-- The calls from the one numbered `first` on, up to the one numbered `last` if there is an end. -/
structure Span where
  first : Nat
  last : Option Nat

namespace Span

/-- The calls of a span. -/
def slice (s : Span) (calls : Array Call) : List Call :=
  (calls.toList.take (s.last.getD calls.size)).drop s.first

/-- The span that ends before the call numbered `now`, unless it ended earlier. -/
def ended (s : Span) (now : Nat) : Span :=
  { s with last := some (s.last.getD now) }

end Span

/-- For each watched name, and for the prompt executor, when it was watched. -/
structure Recording where
  agents : Dict Span
  functions : Dict Span
  prompt : Option Span

namespace Recording

/-- The recording that watches nothing. -/
def empty : Recording :=
  { agents := ∅, functions := ∅, prompt := none }

/-- Watches a name from the call numbered `now` on, or stops watching it. -/
def watch (spans : Dict Span) (name : String) (now : Nat) (watched : Bool) : Dict Span :=
  if watched then spans.insert name { first := now, last := none }
  else
    match spans.get? name with
    | none => spans
    | some span => spans.insert name (span.ended now)

/-- Watches an agent. -/
def watchAgent (r : Recording) (name : String) (now : Nat) (watched : Bool) : Recording :=
  { r with agents := watch r.agents name now watched }

/-- Watches a function. -/
def watchFunction (r : Recording) (name : String) (now : Nat) (watched : Bool) : Recording :=
  { r with functions := watch r.functions name now watched }

/-- Watches the prompt executor. -/
def watchPrompt (r : Recording) (now : Nat) : Recording :=
  { r with prompt := some { first := now, last := none } }

/-- The inputs with which the agent of a name was called. -/
def inputsOf (name : String) (calls : List Call) : List Value :=
  calls.filterMap fun call => match call with
    | .agent callee input => if callee = name then some input else none
    | _ => none

/-- The parameters with which the function of a name was called. -/
def paramsOf (name : String) (calls : List Call) : List Object :=
  calls.filterMap fun call => match call with
    | .function callee params => if callee = name then some params else none
    | _ => none

/-- The prompts among some calls. -/
def requestsOf (calls : List Call) : List PromptRequest :=
  calls.filterMap fun call => match call with
    | .prompt request => some request
    | _ => none

/-- The inputs of each watched agent. -/
def agentInputs (r : Recording) (calls : Array Call) : List (String × List Value) :=
  r.agents.entries.map fun (name, span) => (name, inputsOf name (span.slice calls))

/-- The parameters of each watched function. -/
def functionParams (r : Recording) (calls : Array Call) : List (String × List Object) :=
  r.functions.entries.map fun (name, span) => (name, paramsOf name (span.slice calls))

/-- The requests of the prompt executor, if it was watched. -/
def requests (r : Recording) (calls : Array Call) : Option (List PromptRequest) :=
  r.prompt.map fun span => requestsOf (span.slice calls)

end Recording

end Flowscript
