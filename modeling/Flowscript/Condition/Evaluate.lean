import Flowscript.Condition.Grammar
import Flowscript.Condition.Lexer
import Flowscript.Run.Scope
import Flowscript.Value.Json

/-!
# Evaluating conditions

A condition may refer to names of its scope as `$name`. Each reference is replaced by a literal of
its value before the condition is read, in one pass from left to right: a text between quotes and
escaped, other values as running text, and a missing name as the empty text.
-/

namespace Flowscript.Condition

/-- Whether a character may be part of a referenced name. -/
def isNameChar (c : Char) : Bool :=
  c.isAlphanum || c = '_'

/-- A text between quotes, with quotes and backslashes escaped. -/
def quote (s : String) : List Char :=
  '"' :: (s.toList.flatMap fun c => if c = '"' || c = '\\' then ['\\', c] else [c]) ++ ['"']

/-- The text that stands for the value of a reference. -/
def rendered : Option Value → List Char
  | none => ['"', '"']
  | some (.string s) => quote s
  | some v => v.display.toList

/-- A condition with its references replaced. -/
def substitute (scope : Scope) (cs : List Char) : List Char :=
  match cs with
  | [] => []
  | '$' :: rest =>
    match rest.takeWhile isNameChar with
    | [] => '$' :: substitute scope rest
    | name =>
      rendered (scope.lookup (String.ofList name)) ++
        substitute scope (rest.dropWhile isNameChar)
  | c :: rest => c :: substitute scope rest
termination_by cs.length
decreasing_by
  · simp
  · have := (List.dropWhile_sublist isNameChar (l := rest)).length_le
    simp only [List.length_cons]
    omega
  · simp

/-- The truth of a condition without references. -/
def evaluate (cs : List Char) : Except Fault Bool :=
  match tokens cs with
  | .error f => .error f
  | .ok [] => .error .empty
  | .ok ts =>
    match parse ts with
    | .error f => .error f
    | .ok e =>
      match e.eval with
      | .error f => .error f
      | .ok l => .ok l.truthy

/-- The truth of a condition in a scope. -/
def holds (scope : Scope) (cs : List Char) : Except Fault Bool :=
  evaluate (substitute scope cs)

end Flowscript.Condition
