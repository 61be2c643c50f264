import Flowscript.Decimal.Layout
import Flowscript.Text.Quoted

/-!
# Tokens of conditions

A condition consists of literals, comparison operators, the words `and`, `or` and `not`, and
parentheses. Messages about a condition show its tokens.
-/

namespace Flowscript

/-- Doubles in messages: digits in place between `10 ^ -4` and `10 ^ 16`. -/
def Layout.message : Layout :=
  { inPlace := some (-4, 15), plusSign := false, tie := .up
    infinity := "inf", notANumber := "NaN" }

namespace Condition

/-- A comparison operator. -/
inductive Comparison where
  | eq
  | ne
  | lt
  | gt
  | le
  | ge
  deriving DecidableEq, Repr

/-- How messages name an operator. -/
def Comparison.shown : Comparison → String
  | eq => "Eq"
  | ne => "Ne"
  | lt => "Lt"
  | gt => "Gt"
  | le => "Le"
  | ge => "Ge"

/-- A literal of a condition, and the result of evaluating one. -/
inductive Literal where
  | int (i : Int64)
  | float (x : Float)
  | str (s : String)
  | bool (b : Bool)
  | null

namespace Literal

/-- Whether a literal counts as true. -/
def truthy : Literal → Bool
  | int i => i != 0
  | float x => x != 0.0
  | str s => s != ""
  | bool b => b
  | null => false

/-- A literal as a number; truth values count as zero and one. -/
def number? : Literal → Option Float
  | int i => some (.ofInt i.toInt)
  | float x => some x
  | bool b => some (if b then 1.0 else 0.0)
  | str _ | null => none

/-- The name of a literal's type. -/
def typeName : Literal → String
  | int _ => "int"
  | float _ => "float"
  | str _ => "string"
  | bool _ => "bool"
  | null => "null"

/-- How messages show a literal. -/
def shown : Literal → String
  | int i => "Int(" ++ String.ofList (Digits.ofInt i.toInt) ++ ")"
  | float x => "Float(" ++ String.ofList (Layout.message.double x) ++ ")"
  | str s => "Str(" ++ String.ofList (Text.shown s.toList) ++ ")"
  | bool true => "Bool(true)"
  | bool false => "Bool(false)"
  | null => "Null"

end Literal

/-- A token of a condition. -/
inductive Token where
  | openParen
  | closeParen
  | compare (op : Comparison)
  | and
  | or
  | not
  | literal (l : Literal)

/-- How messages show a token. -/
def Token.shown : Token → String
  | openParen => "LParen"
  | closeParen => "RParen"
  | compare op => "Cmp(" ++ op.shown ++ ")"
  | and => "And"
  | or => "Or"
  | not => "Not"
  | literal l => "Lit(" ++ l.shown ++ ")"

/-- Why a condition has no value. -/
inductive Fault where
  | empty
  | unexpectedChar (c : Char) (offset : Nat)
  | unterminatedString
  | malformedNumber (text : String)
  | unknownWord (word : String)
  | unexpectedToken (t : Token)
  | leftover (t : Token)
  | unclosed
  | incomplete
  | tooDeep
  | unordered (left right : Literal)

/-- The text of a fault. -/
def Fault.message : Fault → String
  | empty => "empty expression"
  | unexpectedChar c offset =>
    "unexpected '" ++ c.toString ++ "' at offset " ++ String.ofList (Digits.ofNat offset)
  | unterminatedString => "unterminated string"
  | malformedNumber text => "malformed number '" ++ text ++ "'"
  | unknownWord word => "unknown identifier '" ++ word ++ "'"
  | unexpectedToken t => "unexpected " ++ t.shown
  | leftover t => "unexpected " ++ t.shown ++ " after expression"
  | unclosed => "expected ')'"
  | incomplete => "unexpected end of expression"
  | tooDeep => "expression nested too deeply"
  | unordered left right => "cannot order " ++ left.typeName ++ " and " ++ right.typeName

end Condition

end Flowscript
