import Flowscript.Dict

/-!
# TOML documents

The data of a TOML document. Tables remember how they came to be, which decides who may still add to
them: a header may open a table that was only implied by a longer header, dotted keys may extend a
table that dotted keys made, and nothing extends an inline table. The tables of an array are kept
with the newest one apart, since that is the one which later headers mean.
-/

namespace Flowscript.Toml

/-- How a table came to be. -/
inductive Origin where
  | inline
  | header
  | implied
  | dotted
  deriving DecidableEq, Repr

/-- A value or a table. -/
inductive Item where
  | string (s : String)
  | integer (i : Int64)
  | float (x : Float)
  | boolean (b : Bool)
  | datetime (text : String)
  | array (items : List Item)
  | table (origin : Origin) (entries : Dict Item)
  | tables (newest : Dict Item) (older : List (Dict Item))

/-- Items under keys. -/
abbrev Table := Dict Item

/-- The table with the result of `f` in the place of the table that `path` leads to. Tables that are
missing on the way are implied; an inline table or a value is never passed. -/
def updateAt (f : Table → Option Table) : List String → Table → Option Table
  | [], t => f t
  | key :: path, t =>
    match t.get? key with
    | none => (updateAt f path ∅).map fun inner => t.insert key (.table .implied inner)
    | some (.table .inline _) => none
    | some (.table origin inner) =>
      (updateAt f path inner).map fun inner => t.insert key (.table origin inner)
    | some (.tables newest older) =>
      (updateAt f path newest).map fun newest => t.insert key (.tables newest older)
    | some _ => none

/-- The table with a value under a key that is still free. -/
def insertFree (key : String) (value : Item) (t : Table) : Option Table :=
  if t.contains key then none else some (t.insert key value)

/-- The table with a value under dotted keys. The tables on the way are made, and the last of them
has to be one that dotted keys have made; `dotted` tells whether this table is. -/
def insertDotted (value : Item) (dotted : Bool) : List String → Table → Option Table
  | [], _ => none
  | [key], t => if dotted then insertFree key value t else none
  | key :: path, t =>
    match t.get? key with
    | none => (insertDotted value true path ∅).map fun inner => t.insert key (.table .dotted inner)
    | some (.table .dotted inner) =>
      (insertDotted value true path inner).map fun inner => t.insert key (.table .dotted inner)
    | some (.table .implied inner) =>
      (insertDotted value false path inner).map fun inner => t.insert key (.table .implied inner)
    | some (.tables newest older) =>
      (insertDotted value false path newest).map fun newest => t.insert key (.tables newest older)
    | some _ => none

/-- The table with a value under the keys of an entry. -/
def insertEntry (keys : List String) (value : Item) (t : Table) : Option Table :=
  match keys with
  | [key] => insertFree key value t
  | keys => insertDotted value false keys t

/-- The table with the table of a header opened under a key. -/
def openTable (key : String) (t : Table) : Option Table :=
  match t.get? key with
  | none => some (t.insert key (.table .header ∅))
  | some (.table .implied inner) => some (t.insert key (.table .header inner))
  | some _ => none

/-- The table with a further table in the array under a key. -/
def openElement (key : String) (t : Table) : Option Table :=
  match t.get? key with
  | none => some (t.insert key (.tables ∅ []))
  | some (.tables newest older) => some (t.insert key (.tables ∅ (newest :: older)))
  | some _ => none

end Flowscript.Toml
