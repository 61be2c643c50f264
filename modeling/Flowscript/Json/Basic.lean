import Flowscript.Decimal.Digits
import Flowscript.Text.Quoted

/-!
# JSON texts

The tree of a JSON text. Numbers keep their literal, since what a number means depends on who asks
for it, and members keep their order and repetitions. A string literal whose escapes leave half of a
surrogate pair has the form of a string and denotes no text.

A tree is printed compactly or over several lines with an indentation of two spaces.
-/

namespace Flowscript

/-- The tree of a JSON text. -/
inductive Json where
  | null
  | bool (b : Bool)
  | number (literal : String)
  | string (content : Option String)
  | array (items : List Json)
  | object (members : List (Option String × Json))
  deriving Inhabited

namespace Json

/-- A text. -/
def text (s : String) : Json := .string (some s)

/-- An integer. -/
def int (i : Int) : Json := .number (String.ofList (Digits.ofInt i))

/-- An object with the given members, in order. -/
def record (members : List (String × Json)) : Json :=
  .object (members.map fun (key, value) => (some key, value))

/-- Four hexadecimal digits. -/
def hex4 (n : Nat) : List Char :=
  let digits := Text.hex n
  List.replicate (4 - digits.length) '0' ++ digits

/-- A character inside a string literal. -/
def quoteChar (c : Char) : List Char :=
  if c = '"' then ['\\', '"']
  else if c = '\\' then ['\\', '\\']
  else if c = '\n' then ['\\', 'n']
  else if c = '\r' then ['\\', 'r']
  else if c = '\t' then ['\\', 't']
  else if c.toNat = 8 then ['\\', 'b']
  else if c.toNat = 12 then ['\\', 'f']
  else if c.toNat < 0x20 then '\\' :: 'u' :: hex4 c.toNat
  else [c]

/-- A string literal. Content that is no text is written as half of a surrogate pair. -/
def quote : Option String → List Char
  | some s => '"' :: s.toList.flatMap quoteChar ++ ['"']
  | none => '"' :: '\\' :: 'u' :: hex4 0xD800 ++ ['"']

/-- `null`, a truth value, a number or a string. -/
def scalar : Json → List Char
  | .null => "null".toList
  | .bool true => "true".toList
  | .bool false => "false".toList
  | .number literal => literal.toList
  | .string content => quote content
  | .array _ | .object _ => []

mutual

/-- A tree without any blanks. -/
def compact : Json → List Char
  | .array items => '[' :: compactItems items ++ [']']
  | .object members => '{' :: compactMembers members ++ ['}']
  | leaf => scalar leaf

/-- Items with commas between them. -/
def compactItems : List Json → List Char
  | [] => []
  | [item] => compact item
  | item :: more => compact item ++ ',' :: compactItems more

/-- Members with commas between them. -/
def compactMembers : List (Option String × Json) → List Char
  | [] => []
  | [(key, value)] => quote key ++ ':' :: compact value
  | (key, value) :: more => quote key ++ ':' :: compact value ++ ',' :: compactMembers more

end

/-- A new line, indented by `depth` steps. -/
def newLine (depth : Nat) : List Char :=
  '\n' :: List.replicate (2 * depth) ' '

mutual

/-- A tree with each item and member on a line of its own. -/
def pretty (depth : Nat) : Json → List Char
  | .array [] => ['[', ']']
  | .array items => '[' :: prettyItems (depth + 1) items ++ newLine depth ++ [']']
  | .object [] => ['{', '}']
  | .object members => '{' :: prettyMembers (depth + 1) members ++ newLine depth ++ ['}']
  | leaf => scalar leaf

/-- Items on lines of their own. -/
def prettyItems (depth : Nat) : List Json → List Char
  | [] => []
  | [item] => newLine depth ++ pretty depth item
  | item :: more => newLine depth ++ pretty depth item ++ ',' :: prettyItems depth more

/-- Members on lines of their own. -/
def prettyMembers (depth : Nat) : List (Option String × Json) → List Char
  | [] => []
  | [(key, value)] => newLine depth ++ quote key ++ ':' :: ' ' :: pretty depth value
  | (key, value) :: more =>
    newLine depth ++ quote key ++ ':' :: ' ' :: pretty depth value ++ ',' ::
      prettyMembers depth more

end

/-- The compact text of a tree. -/
def toText (j : Json) : String :=
  String.ofList j.compact

/-- The indented text of a tree. -/
def toPrettyText (j : Json) : String :=
  String.ofList (j.pretty 0)

end Json

end Flowscript
