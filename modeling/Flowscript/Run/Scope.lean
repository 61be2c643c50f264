import Flowscript.Value.Basic
import Flowscript.Text.Cut

/-!
# Scopes

The names that templates, conditions and parameters refer to. A variable hides an input of the same
name.
-/

namespace Flowscript

/-- The variables of a workflow and the input of a run. -/
structure Scope where
  input : Object
  vars : Object

namespace Scope

/-- The value of a name: the variable, or else the input. -/
def lookup (s : Scope) (name : String) : Option Value :=
  match s.vars.get? name with
  | some v => some v
  | none => s.input.get? name

/-- The value that a path of names separated by points leads to, starting from a variable. -/
def lookupPath (s : Scope) (path : List Char) : Option Value :=
  (Value.object s.vars).walk? ((Text.pieces '.' path).map String.ofList)

end Scope

end Flowscript
