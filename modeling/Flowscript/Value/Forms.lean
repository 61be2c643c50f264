import Flowscript.Value.Json

/-!
# The forms of a value

A value has one of seven forms. As a field of a record it is read by trying the forms in order, of
which the first that fits is taken, and it is written form by form, without a tree in between.
-/

namespace Flowscript

namespace Value

/-- The form of null. -/
def nullForm? : Json → Option Value
  | .null => some .null
  | _ => none

/-- The form of a truth value. -/
def boolForm? : Json → Option Value
  | .bool b => some (.bool b)
  | _ => none

/-- The form of an integer: a numeral without a fraction and a power of ten, if 64 bits hold it. -/
def intForm? : Json → Option Value
  | .number literal =>
    (Json.integer? literal).bind fun i =>
      if Int64.minValue.toInt ≤ i ∧ i ≤ Int64.maxValue.toInt then some (.int (.ofInt i)) else none
  | _ => none

/-- The form of a floating point number: any numeral. -/
def floatForm? : Json → Option Value
  | .number literal => (Json.float? literal).map .float
  | _ => none

/-- The form of a string. -/
def stringForm? : Json → Option Value
  | .string content => content.map .string
  | _ => none

/-- The first form that fits of those without parts. -/
def scalarForm? (j : Json) : Option Value :=
  nullForm? j <|> boolForm? j <|> intForm? j <|> floatForm? j <|> stringForm? j

mutual

/-- The value of the first form that fits, with at most `room` containers around each other. -/
def decode? (room : Nat) (j : Json) : Option Value :=
  match scalarForm? j with
  | some v => some v
  | none =>
    match j, room with
    | .array items, inner + 1 => (decodeItems? inner items).map .list
    | .object members, inner + 1 =>
      (decodeMembers? inner members).map fun entries => .object (.ofList entries)
    | _, _ => none

/-- The values of the items of a list. -/
def decodeItems? (room : Nat) : List Json → Option (List Value)
  | [] => some []
  | item :: more => do
    let v ← decode? room item
    let values ← decodeItems? room more
    some (v :: values)

/-- The entries of an object. -/
def decodeMembers? (room : Nat) : List (Option String × Json) → Option (List (String × Value))
  | [] => some []
  | (key, value) :: more => do
    let key ← key
    let v ← decode? room value
    let entries ← decodeMembers? room more
    some ((key, v) :: entries)

end

mutual

/-- The JSON text of a value, form by form. -/
def write : Value → List Char
  | .null => "null".toList
  | .bool b => (if b then "true" else "false").toList
  | .int i => Digits.ofInt i.toInt
  | .float x => if x.isFinite then Layout.json64.double x else "null".toList
  | .string s => Json.quote (some s)
  | .list items => '[' :: writeItems items ++ [']']
  | .object ⟨members⟩ => '{' :: writeMembers members ++ ['}']

/-- Values with commas between them. -/
def writeItems : List Value → List Char
  | [] => []
  | [v] => write v
  | v :: more => write v ++ ',' :: writeItems more

/-- Entries with commas between them. -/
def writeMembers : List (String × Value) → List Char
  | [] => []
  | [(key, v)] => Json.quote (some key) ++ ':' :: write v
  | (key, v) :: more => Json.quote (some key) ++ ':' :: write v ++ ',' :: writeMembers more

end

end Value

/-- The object that a field of a record denotes, itself one of the `room` containers. -/
def Object.decode? (room : Nat) (j : Json) : Option Object :=
  (Value.decode? room j).bind Value.object?

end Flowscript
