import Flowscript.Decimal.Layout
import Flowscript.Json.Decode
import Flowscript.Value.Basic

/-!
# Values as JSON and as text

Every value has a JSON text, in which numbers that JSON cannot express become null, and every JSON
text within the limits of size and depth is a value: a numeral without a fraction and a power of ten
is an integer where 64 bits hold it, and every other numeral is taken for a double near it.

In running text a string stands for itself and a list or object for its JSON text.
-/

namespace Flowscript

/-- Doubles in JSON: digits in place between `10 ^ -5` and `10 ^ 16`. -/
def Layout.json64 : Layout :=
  { inPlace := some (-5, 15), plusSign := true, tie := .toEven
    infinity := "null", notANumber := "null" }

/-- Singles in JSON: digits in place between `10 ^ -6` and `10 ^ 13`. -/
def Layout.json32 : Layout :=
  { inPlace := some (-6, 12), plusSign := true, tie := .toEven
    infinity := "null", notANumber := "null" }

/-- Doubles in running text: digits always in place. -/
def Layout.plain : Layout :=
  { inPlace := none, plusSign := false, tie := .up
    infinity := "inf", notANumber := "NaN" }

/-- A double as JSON; null where it is not finite. -/
def Json.float (x : Float) : Json :=
  if x.isFinite then .number (String.ofList (Layout.json64.double x)) else .null

/-- A single as JSON; null where it is not finite. -/
def Json.single (x : Float32) : Json :=
  if x.isFinite then .number (String.ofList (Layout.json32.single x)) else .null

namespace Value

mutual

/-- A value as a JSON tree. -/
def toJson : Value → Json
  | .null => .null
  | .bool b => .bool b
  | .int i => .int i.toInt
  | .float x => .float x
  | .string s => .text s
  | .list items => .array (itemsToJson items)
  | .object ⟨members⟩ => .object (membersToJson members)

/-- Values as JSON trees. -/
def itemsToJson : List Value → List Json
  | [] => []
  | v :: more => v.toJson :: itemsToJson more

/-- Entries as the members of an object. -/
def membersToJson : List (String × Value) → List (Option String × Json)
  | [] => []
  | (key, v) :: more => (some key, v.toJson) :: membersToJson more

end

/-- The value that a numeral literal denotes. -/
def ofNumeral? (literal : String) : Option Value :=
  match (Json.integer? literal).bind fun _ => Digits.int64? literal.toList with
  | some i => some (.int i)
  | none => (Json.float? literal).map .float

/-- The greatest depth of nested lists and objects in a JSON text. -/
def depthLimit : Nat := 127

mutual

/-- The value that a JSON tree denotes, with at most `room` containers around each other. -/
def ofJson? (room : Nat) : Json → Option Value
  | .null => some .null
  | .bool b => some (.bool b)
  | .number literal => ofNumeral? literal
  | .string content => content.map .string
  | .array items =>
    match room with
    | 0 => none
    | inner + 1 => (itemsOfJson? inner items).map .list
  | .object members =>
    match room with
    | 0 => none
    | inner + 1 => (membersOfJson? inner members).map fun entries => .object (.ofList entries)

/-- The values that JSON trees denote. -/
def itemsOfJson? (room : Nat) : List Json → Option (List Value)
  | [] => some []
  | item :: more => do
    let v ← ofJson? room item
    let values ← itemsOfJson? room more
    some (v :: values)

/-- The entries that members denote. -/
def membersOfJson? (room : Nat) : List (Option String × Json) → Option (List (String × Value))
  | [] => some []
  | (key, value) :: more => do
    let key ← key
    let v ← ofJson? room value
    let entries ← membersOfJson? room more
    some ((key, v) :: entries)

end

/-- The compact JSON text of a value. -/
def toJsonText (v : Value) : String :=
  v.toJson.toText

/-- The value that a JSON text denotes. -/
def read? (cs : List Char) : Option Value :=
  (Json.read? cs).bind (ofJson? depthLimit)

/-- A value in running text. -/
def display : Value → String
  | .null => "null"
  | .bool true => "true"
  | .bool false => "false"
  | .int i => String.ofList (Digits.ofInt i.toInt)
  | .float x => String.ofList (Layout.plain.double x)
  | .string s => s
  | v => v.toJsonText

end Value

/-- An object as a JSON tree. -/
def Object.toJson (o : Object) : Json :=
  (Value.object o).toJson

end Flowscript
