import Flowscript.Run.Scope
import Flowscript.Workflow.Literal

/-!
# Parameter values

The raw text of a parameter stands for a value of a scope. The text of a JSON object stands for that
object, in which each member that is a text `$name` is replaced by the value of the name, on the
outermost level only. Other text `$name` stands for the value of the name, and everything else for
itself. An unknown name stays as it is written.
-/

namespace Flowscript.Parameter

/-- The value of the name behind a dollar sign, or the text itself. -/
def dereferenced (scope : Scope) (s : String) : Value :=
  match s.toList with
  | '$' :: name => (scope.lookup (String.ofList name)).getD (.string s)
  | _ => .string s

/-- A member of an object, dereferenced if it is a text. -/
def member (scope : Scope) : Value → Value
  | .string s => dereferenced scope s
  | v => v

/-- The value that raw text stands for. -/
def resolve (scope : Scope) (raw : String) : Value :=
  match Literal.object? raw.toList with
  | some members => .object (members.map (member scope))
  | none => dereferenced scope raw

end Flowscript.Parameter
