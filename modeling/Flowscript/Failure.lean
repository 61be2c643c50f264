import Flowscript.Decimal.Digits
import Flowscript.Value.Basic

/-!
# Failures

The causes for which reading a workflow, running one or loading settings fails, and their texts.
-/

namespace Flowscript

/-- What a node delegates its work to. -/
inductive CollaboratorKind where
  | agent
  | function
  | prompt
  deriving DecidableEq, Repr

namespace CollaboratorKind

/-- All kinds. -/
def all : List CollaboratorKind := [.agent, .function, .prompt]

/-- The word for a kind. -/
def word : CollaboratorKind → String
  | agent => "agent"
  | function => "function"
  | prompt => "prompt"

/-- The kind with a word. -/
def ofWord? (text : String) : Option CollaboratorKind :=
  all.find? fun kind => kind.word = text

end CollaboratorKind

/-- The nodes a run had entered and the output it had written when it stopped. -/
structure Trace where
  path : Array String
  partialOutput : Object

/-- Why something failed. -/
inductive Failure where
  | format (line : Nat) (message : String)
  | unknownNodeKind (line : Nat) (keyword : String)
  | invalidConnection (line : Nat) (message : String)
  | workflowNotFound (workflow : String)
  | noInputNode (workflow : String)
  | nodeNotFound (workflow node : String)
  | visitLimitExceeded (node : String) (visits : Nat)
  | cycleDetected (workflow node : String) (path : List String)
  | conditionFailed (expression message : String)
  | unregistered (kind : CollaboratorKind) (name : String)
  | collaboratorFailed (node collaborator message : String) (trace : Trace)
  | collaboratorTimeout (node collaborator : String) (seconds : Nat)
  | collaborator (message : String)
  | config (message : String)
  | configNotFound (path : String)
  | unreadable (message : String)
  | malformedJson

namespace Failure

/-- A natural number in a text. -/
def numeral (n : Nat) : String :=
  String.ofList (Digits.ofNat n)

/-- The text of a failure. -/
def message : Failure → String
  | format line text => "Format error on line " ++ numeral line ++ ": " ++ text
  | unknownNodeKind line keyword => "Unknown node type on line " ++ numeral line ++ ": " ++ keyword
  | invalidConnection line text =>
    "Invalid connection on line " ++ numeral line ++ ": " ++ text
  | workflowNotFound workflow => "Workflow '" ++ workflow ++ "' not found"
  | noInputNode workflow => "No input nodes found in workflow '" ++ workflow ++ "'"
  | nodeNotFound workflow node => "Node '" ++ node ++ "' not found in workflow '" ++ workflow ++ "'"
  | visitLimitExceeded node visits =>
    "Visit limit exceeded at node '" ++ node ++ "' (" ++ numeral visits ++ " visits)"
  | cycleDetected workflow node path =>
    "Cycle in workflow '" ++ workflow ++ "': " ++ " -> ".intercalate path ++ " -> " ++ node
  | conditionFailed expression text =>
    "Condition '" ++ expression ++ "' could not be evaluated: " ++ text
  | unregistered kind name => kind.word ++ " '" ++ name ++ "' not registered"
  | collaboratorFailed node callee text _ =>
    "Node '" ++ node ++ "' failed calling '" ++ callee ++ "': " ++ text
  | collaboratorTimeout node callee seconds =>
    "Node '" ++ node ++ "' timed out after " ++ numeral seconds ++ "s calling '" ++ callee ++ "'"
  | collaborator text => text
  | config text => "Config error: " ++ text
  | configNotFound path => "Config file not found: " ++ path
  | unreadable text => "I/O error: " ++ text
  | malformedJson => "JSON error: malformed text"

/-- Whether a failure is one of reading workflow text. -/
def isParseError : Failure → Bool
  | format .. | unknownNodeKind .. | invalidConnection .. => true
  | _ => false

end Failure

end Flowscript
