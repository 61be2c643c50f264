/-!
# Events

What a run reports while it goes on.
-/

namespace Flowscript

/-- The identifier of a run. -/
structure RunId where
  text : String
  deriving DecidableEq, Repr

/-- A report of a run. -/
inductive Event where
  | runStarted (run : RunId) (workflow : String)
  | nodeStarted (run : RunId) (workflow node kind : String)
  | nodeCompleted (run : RunId) (workflow node : String)
  | conditionFailed (run : RunId) (workflow node expression error : String)
  | runCompleted (run : RunId) (workflow : String) (visited : Nat)
  | runFailed (run : RunId) (workflow error : String)
  deriving DecidableEq, Repr

namespace Event

/-- The run that an event reports on. -/
def run : Event → RunId
  | runStarted run .. | nodeStarted run .. | nodeCompleted run .. | conditionFailed run ..
  | runCompleted run .. | runFailed run .. => run

end Event

end Flowscript
