import Flowscript.Run.Scope
import Flowscript.Text.Blank
import Flowscript.Value.Json

/-!
# Templates

A template is text with placeholders in double braces, which are replaced by values of a scope in
one pass from left to right. A placeholder with a point in it is a path that starts from a variable;
where it leads nowhere, or to null, the placeholder stays. Any other placeholder is a name, which is
replaced by nothing where it is missing and stays where it is null.
-/

namespace Flowscript.Template

/-- The expression of a placeholder and the text behind it, given the text behind its opening
braces. An expression is not empty and has no closing brace. -/
def placeholder? (cs : List Char) : Option (List Char × List Char) :=
  match cs.takeWhile (· ≠ '}'), cs.dropWhile (· ≠ '}') with
  | [], _ => none
  | e, '}' :: '}' :: after => some (e, after)
  | _, _ => none

/-- The value that an expression without blanks around it stands for. -/
def value? (scope : Scope) (e : List Char) : Option Value :=
  if e.contains '.' then scope.lookupPath e
  else some ((scope.lookup (String.ofList e)).getD (.string ""))

/-- The text that replaces the placeholder of an expression. -/
def replacement (scope : Scope) (e : List Char) : List Char :=
  match value? scope (Text.trim e) with
  | none | some .null => '{' :: '{' :: e ++ ['}', '}']
  | some v => v.display.toList

theorem length_placeholder?_lt {cs e after : List Char} (h : placeholder? cs = some (e, after)) :
    after.length < cs.length := by
  unfold placeholder? at h
  have hle := (List.dropWhile_sublist (fun c => decide (c ≠ '}')) (l := cs)).length_le
  split at h
  · simp at h
  · rename_i hdrop _
    simp only [Option.some.injEq, Prod.mk.injEq] at h
    rw [hdrop] at hle
    simp only [List.length_cons, h.2] at hle
    omega
  · simp at h

/-- A template with its placeholders replaced. -/
def render (scope : Scope) (cs : List Char) : List Char :=
  match cs with
  | [] => []
  | '{' :: '{' :: rest =>
    match _h : placeholder? rest with
    | some (e, after) => replacement scope e ++ render scope after
    | none => '{' :: render scope ('{' :: rest)
  | c :: rest => c :: render scope rest
termination_by cs.length
decreasing_by
  · have := length_placeholder?_lt ‹placeholder? rest = some (_, after)›
    simp only [List.length_cons]
    omega
  · simp
  · simp

end Flowscript.Template
