import Flowscript.Failure

/-!
# Collaborators

Nodes delegate work to agents, functions and prompt executors. A collaborator answers an input, and
may look at all calls made before, after a delay; nothing else is known of it, so a run is
determined by its collaborators. Time is counted, not measured: a call times out if the delay of its
answer exceeds the time it is given. No delay counts as more than thirty years, so a call that is
given as long never times out.
-/

namespace Flowscript

/-- A prompt to be completed. -/
structure PromptRequest where
  node : String
  system : String
  user : String
  model : Option String
  temperature : Option Float32
  maxTokens : Option UInt32

/-- A call of a collaborator. -/
inductive Call where
  | agent (name : String) (input : Value)
  | function (name : String) (params : Object)
  | prompt (request : PromptRequest)

/-- An answer, and the milliseconds that pass before it. -/
structure Reply (ω : Type) where
  delay : Nat
  outcome : Except Failure ω

/-- The longest delay that is counted, in milliseconds: thirty years of 365 days. -/
def longestDelay : Nat := 30 * 365 * 24 * 60 * 60 * 1000

/-- The milliseconds that are waited for an answer. -/
def Reply.wait {ω : Type} (reply : Reply ω) : Nat :=
  min reply.delay longestDelay

/-- What answers inputs of type `ι`, given the calls before, and the seconds its answers may take
if it sets that itself; zero seconds are no limit. -/
structure Collaborator (ι ω : Type) where
  answer : Array Call → ι → Reply ω
  timeout : Option Nat

/-- Answers any value with a value. -/
abbrev Agent := Collaborator Value Value

/-- Answers named parameters with a value. -/
abbrev NamedFunction := Collaborator Object Value

/-- Completes prompts. -/
abbrev PromptExecutor := Collaborator PromptRequest String

namespace Collaborator

variable {ι ω : Type}

/-- The collaborator that answers with a function of its input alone. -/
def pure (f : ι → Except Failure ω) (delay : Nat) (timeout : Option Nat) : Collaborator ι ω :=
  { answer := fun _ input => { delay, outcome := f input }, timeout }

end Collaborator

end Flowscript
