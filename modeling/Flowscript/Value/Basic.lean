import Flowscript.Dict

/-!
# Values

The values that workflow variables, inputs and results hold. Integers are 64 bits wide and stay
apart from floating point numbers.
-/

namespace Flowscript

/-- A value of a variable, an input or a result. -/
inductive Value where
  | null
  | bool (b : Bool)
  | int (i : Int64)
  | float (x : Float)
  | string (s : String)
  | list (items : List Value)
  | object (members : Dict Value)
  deriving Inhabited

/-- Values under names: inputs, variables, outputs. -/
abbrev Object := Dict Value

namespace Value

/-- The name of a value's type. -/
def typeName : Value → String
  | .null => "null"
  | .bool _ => "bool"
  | .int _ => "int"
  | .float _ => "float"
  | .string _ => "string"
  | .list _ => "list"
  | .object _ => "object"

/-- Whether a value counts as true: null, zero and everything empty count as false. -/
def truthy : Value → Bool
  | .null => false
  | .bool b => b
  | .int i => i != 0
  | .float x => x != 0.0
  | .string s => s != ""
  | .list items => !items.isEmpty
  | .object members => !members.isEmpty

/-- Whether a value is null. -/
def isNull : Value → Bool
  | .null => true
  | _ => false

/-- The text of a string. -/
def string? : Value → Option String
  | .string s => some s
  | _ => none

/-- The truth value of a boolean. -/
def bool? : Value → Option Bool
  | .bool b => some b
  | _ => none

/-- The members of an object. -/
def object? : Value → Option Object
  | .object members => some members
  | _ => none

theorem object?_eq_some {v : Value} {members : Object} (h : v.object? = some members) :
    v = .object members := by
  cases v with
  | object => exact congrArg object (Option.some.inj h)
  | null | bool | int | float | string | list => cases h

/-- The member of an object under a key. -/
def member? (v : Value) (key : String) : Option Value :=
  v.object?.bind fun members => members.get? key

/-- The value that a path of keys leads to, from object to object. -/
def walk? (v : Value) : List String → Option Value
  | [] => some v
  | key :: path => (v.member? key).bind fun next => next.walk? path

end Value

end Flowscript
