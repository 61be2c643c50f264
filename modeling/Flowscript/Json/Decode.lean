import Flowscript.Json.Reader
import Flowscript.Json.Number
import Flowscript.Dict

/-!
# Decoding JSON trees

A decoder gives the datum that a tree stands for, or nothing. A record stands for its fields either
by name, in any order and with other members beside them, or as an array of the fields in order,
of which those at the end may be missing.
-/

namespace Flowscript.Json

/-- The text of a string literal. -/
def text? : Json → Option String
  | .string content => content
  | _ => none

/-- The integer that a literal without a fraction and a power of ten denotes. A minus sign before a
zero makes a floating point number. -/
def integer? (literal : String) : Option Int :=
  if literal = "-0" then none else Digits.int? literal.toList

/-- A natural number below `limit`. -/
def natBelow? (limit : Nat) : Json → Option Nat
  | .number literal =>
    (integer? literal).bind fun i => if 0 ≤ i ∧ i < limit then some i.toNat else none
  | _ => none

/-- The members with a given key. -/
def withKey (key : String) (members : List (Option String × Json)) : List Json :=
  members.filterMap fun (k, value) => if k = some key then some value else none

/-- The only value under a key, nothing if there is none; repeated keys are refused. -/
def field? (members : List (Option String × Json)) (key : String) : Option (Option Json) :=
  match withKey key members with
  | [] => some none
  | [value] => some (some value)
  | _ => none

/-- The fields of a record, nothing for those that are missing. -/
def fields? (names : List String) : Json → Option (List (Option Json))
  | .object members =>
    if members.all fun member => member.1.isSome then names.mapM (field? members) else none
  | .array items =>
    if items.length ≤ names.length then
      some (items.map some ++ List.replicate (names.length - items.length) none)
    else none
  | _ => none

/-- The items of an array, each decoded. -/
def list? {α : Type} (item? : Json → Option α) : Json → Option (List α)
  | .array items => items.mapM item?
  | _ => none

/-- A member whose key is a text, its value decoded. -/
def member? {α : Type} (value? : Json → Option α) (member : Option String × Json) :
    Option (String × α) :=
  match member with
  | (some key, value) => (value? value).map (key, ·)
  | (none, _) => none

/-- The members of an object, each value decoded; of two with one key the later counts. -/
def dict? {α : Type} (value? : Json → Option α) : Json → Option (Dict α)
  | .object members => (members.mapM (member? value?)).map Dict.ofList
  | _ => none

/-- A field that may be missing, or null. -/
def optional? {α : Type} (value? : Json → Option α) : Option Json → Option (Option α)
  | none => some none
  | some .null => some none
  | some value => (value? value).map some

/-- A field that may be missing and then has a default. -/
def orDefault? {α : Type} (default : α) (value? : Json → Option α) : Option Json → Option α
  | none => some default
  | some value => value? value

/-- A name out of a fixed set, as a text or as the only member of an object, with the value
null. -/
def name? : Json → Option String
  | .string content => content
  | .object [(key, .null)] => key
  | _ => none

end Flowscript.Json
