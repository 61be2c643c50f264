import Flowscript.Text.Blank
import Flowscript.Text.Cut
import Flowscript.Value.Json

/-!
# Literals

The literals of variable definitions. The first form that fits decides: quoted text, truth value,
integer, number with a point, list, JSON object; everything else is text as it stands. The items of
a list are always texts.
-/

namespace Flowscript.Literal

/-- Whether text is an optional minus sign and digits. -/
def isInteger : List Char → Bool
  | '-' :: cs => Digits.isRun cs
  | cs => Digits.isRun cs

/-- Whether text has a point and, minus signs aside, digits around each point. -/
def isPointed (cs : List Char) : Bool :=
  cs.contains '.' && (Text.pieces '.' (cs.filter (· != '-'))).all Digits.isRun

/-- The integer of 64 bits that a literal denotes. -/
def integer? (cs : List Char) : Option Int64 :=
  if isInteger cs then Digits.int64? cs else none

/-- The number with a point that a literal denotes. -/
def pointed? (cs : List Char) : Option Float :=
  if isPointed cs then Numeral.readFloat? cs else none

/-- The texts between the commas of a list, without blanks around them and without empty ones. -/
def items (cs : List Char) : List Value :=
  (((Text.pieces ',' cs).map Text.trim).filter (!·.isEmpty)).map fun item =>
    .string (String.ofList item)

/-- The object that a JSON text in braces denotes. -/
def object? (cs : List Char) : Option Object :=
  if cs.head? = some '{' ∧ cs.getLast? = some '}' then (Value.read? cs).bind Value.object?
  else none

/-- The value of a literal without blanks around it. -/
def value (cs : List Char) : Value :=
  match Text.unquote? cs with
  | some inner => .string (String.ofList inner)
  | none =>
    let word := cs.map Char.toLower
    if word = "true".toList then .bool true
    else if word = "false".toList then .bool false
    else
      match integer? cs with
      | some i => .int i
      | none =>
        match pointed? cs with
        | some x => .float x
        | none =>
          match Text.between? '[' ']' cs with
          | some inner => .list (items inner)
          | none =>
            match object? cs with
            | some members => .object members
            | none => .string (String.ofList cs)

end Flowscript.Literal
