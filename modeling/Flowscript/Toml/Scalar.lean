import Flowscript.Decimal.Binary
import Flowscript.Json.Reader
import Flowscript.Toml.Basic

/-!
# TOML scalars

Values that are written as one word: truth values, numbers and times. Underscores may separate the
digits of a number. Only a date with a time consists of two words, where a blank stands between date
and time.
-/

namespace Flowscript.Toml

/-- The characters that words are made of. -/
def isWordChar (c : Char) : Bool :=
  c.isAlphanum || c = '+' || c = '-' || c = '.' || c = '_' || c = ':'

/-- Whether text consists of digits with single underscores between them, at least one. -/
def isGrouped (isDigit : Char → Bool) : List Char → Bool
  | [] => false
  | [c] => isDigit c
  | c :: '_' :: rest => isDigit c && isGrouped isDigit rest
  | c :: rest => isDigit c && isGrouped isDigit rest

/-- Text without underscores. -/
def ungrouped (cs : List Char) : List Char :=
  cs.filter (· ≠ '_')

/-- Text without a sign. -/
def unsigned (cs : List Char) : List Char :=
  (Digits.signed cs).2

/-- Whether text is a whole number without leading zeros. -/
def isWhole (cs : List Char) : Bool :=
  isGrouped Char.isDigit cs && (cs = ['0'] || cs.head? ≠ some '0')

/-- The number that digits of a base denote, if 63 bits hold it. -/
def based? (base : Nat) (cs : List Char) : Option Int64 :=
  let isDigit (c : Char) : Bool := match Json.hexDigit? c with
    | some n => n < base
    | none => false
  if isGrouped isDigit cs then
    let n := (ungrouped cs).foldl (fun n c => base * n + (Json.hexDigit? c).getD 0) 0
    if (n : Int) ≤ Int64.maxValue.toInt then some (.ofNat n) else none
  else none

/-- The integer that a word denotes. -/
def integer? : List Char → Option Int64
  | '0' :: 'x' :: digits => based? 16 digits
  | '0' :: 'o' :: digits => based? 8 digits
  | '0' :: 'b' :: digits => based? 2 digits
  | word => if isWhole (unsigned word) then Digits.int64? (ungrouped word) else none

/-- Whether a character belongs to a group of digits. -/
def inGroup (c : Char) : Bool :=
  c.isDigit || c = '_'

/-- Whether text is a power of ten behind a number. -/
def isPower : List Char → Bool
  | c :: cs => (c = 'e' || c = 'E') && isGrouped Char.isDigit (unsigned cs)
  | [] => false

/-- Whether text is what makes a whole number one with a fraction or a power of ten. -/
def isFraction : List Char → Bool
  | '.' :: cs =>
    isGrouped Char.isDigit (cs.takeWhile inGroup) &&
      ((cs.dropWhile inGroup).isEmpty || isPower (cs.dropWhile inGroup))
  | cs => isPower cs

/-- The floating point number that a word denotes. A number too great for a double is none. -/
def float? (word : List Char) : Option Float :=
  let body := unsigned word
  if body = "inf".toList ∨ body = "nan".toList then
    some (if body = "nan".toList then 0.0 / 0.0 else if word.head? = some '-' then -1.0 / 0.0
      else 1.0 / 0.0)
  else if isWhole (body.takeWhile inGroup) && isFraction (body.dropWhile inGroup) then
    (Numeral.readFloat? (ungrouped word)).bind fun x => if x = 1.0 / 0.0 then none else some x
  else none

/-- The number that two digits denote, and the text behind them. -/
def twoDigits? : List Char → Option (Nat × List Char)
  | a :: b :: rest => if Digits.isRun [a, b] then some (Digits.value [a, b], rest) else none
  | _ => none

/-- A number of two digits between two bounds, and the text behind it. -/
def bounded? (least greatest : Nat) (cs : List Char) : Option (Nat × List Char) :=
  (twoDigits? cs).bind fun (n, rest) => if least ≤ n ∧ n ≤ greatest then some (n, rest) else none

/-- How many days a month has. -/
def daysOf (year month : Nat) : Nat :=
  if month = 2 then
    if year % 4 = 0 ∧ (year % 100 ≠ 0 ∨ year % 400 = 0) then 29 else 28
  else if month = 4 ∨ month = 6 ∨ month = 9 ∨ month = 11 then 30
  else 31

/-- The text behind a date. -/
def afterDate? : List Char → Option (List Char)
  | a :: b :: c :: d :: '-' :: rest =>
    if Digits.isRun [a, b, c, d] then
      match bounded? 1 12 rest with
      | some (month, '-' :: rest) =>
        (bounded? 1 (daysOf (Digits.value [a, b, c, d]) month) rest).map (·.2)
      | _ => none
    else none
  | _ => none

/-- The text behind a fraction of a second, if there is one. -/
def afterSecond? : List Char → Option (List Char)
  | '.' :: cs => if cs.takeWhile Char.isDigit = [] then none else some (cs.dropWhile Char.isDigit)
  | cs => some cs

/-- The text behind a time. -/
def afterTime? (cs : List Char) : Option (List Char) :=
  match bounded? 0 23 cs with
  | some (_, ':' :: cs) =>
    match bounded? 0 59 cs with
    | some (_, ':' :: cs) => (bounded? 0 60 cs).bind fun (_, rest) => afterSecond? rest
    | _ => none
  | _ => none

/-- Whether text is an offset from universal time. -/
def isOffset : List Char → Bool
  | ['Z'] | ['z'] => true
  | c :: cs =>
    (c = '+' || c = '-') &&
      match bounded? 0 23 cs with
      | some (_, ':' :: cs) => (bounded? 0 59 cs).any fun (_, rest) => rest.isEmpty
      | _ => false
  | [] => false

/-- Whether text is a time behind a date. -/
def isClock (cs : List Char) : Bool :=
  (afterTime? cs).any fun rest => rest.isEmpty || isOffset rest

/-- Whether a word is a date, a time, or both. -/
def isTime (word : List Char) : Bool :=
  match afterDate? word with
  | some [] => true
  | some (c :: rest) => (c = 'T' || c = 't') && isClock rest
  | none => afterTime? word = some []

/-- The scalar that a word denotes. -/
def scalar? (word : List Char) : Option Item :=
  if word = "true".toList then some (.boolean true)
  else if word = "false".toList then some (.boolean false)
  else if isTime word then some (.datetime (String.ofList word))
  else
    match float? word with
    | some x => some (.float x)
    | none => (integer? word).map .integer

/-- The time behind a blank, if text goes on with one, and the text behind that. -/
def clockBehindBlank? : List Char → Option (List Char × List Char)
  | ' ' :: rest =>
    if isClock (rest.takeWhile isWordChar) then
      some (rest.takeWhile isWordChar, rest.dropWhile isWordChar)
    else none
  | _ => none

/-- The scalar at the start of a text, and what is behind it. -/
def readScalar? (cs : List Char) : Option (Item × List Char) :=
  let word := cs.takeWhile isWordChar
  let rest := cs.dropWhile isWordChar
  match (scalar? word), clockBehindBlank? rest with
  | none, _ => none
  | some item, none => some (item, rest)
  | some item, some (clock, after) =>
    if afterDate? word = some [] then
      some (.datetime (String.ofList (word ++ ' ' :: clock)), after)
    else some (item, rest)

end Flowscript.Toml
