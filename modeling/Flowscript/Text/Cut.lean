/-!
# Cutting text

Text is cut at a mark: at its first occurrence, at its last, or at every one. A cut returns what
stands on either side of the mark and fails where the mark is absent.
-/

namespace Flowscript.Text

/-- The text before and after the first occurrence of `mark`. -/
def cut? (mark : List Char) : List Char → Option (List Char × List Char)
  | [] => if mark.isEmpty then some ([], []) else none
  | c :: cs =>
    if mark.isPrefixOf (c :: cs) then some ([], (c :: cs).drop mark.length)
    else (cut? mark cs).map fun (before, after) => (c :: before, after)

/-- Whether `mark` occurs in the text. -/
def occurs (mark : List Char) (cs : List Char) : Bool :=
  (cut? mark cs).isSome

/-- The text before and after the first character `mark`. -/
def cutAt? (mark : Char) : List Char → Option (List Char × List Char)
  | [] => none
  | c :: cs =>
    if c = mark then some ([], cs)
    else (cutAt? mark cs).map fun (before, after) => (c :: before, after)

/-- The text before the last character `mark`, and the text after it. -/
def cutLast? (mark : Char) : List Char → Option (List Char × List Char)
  | [] => none
  | c :: cs =>
    match cutLast? mark cs with
    | some (before, after) => some (c :: before, after)
    | none => if c = mark then some ([], cs) else none

/-- The pieces between the characters `mark`; one piece more than there are marks. -/
def pieces (mark : Char) : List Char → List (List Char)
  | [] => [[]]
  | c :: cs =>
    if c = mark then [] :: pieces mark cs
    else
      match pieces mark cs with
      | [] => [[c]]
      | piece :: more => (c :: piece) :: more

/-- What stands between a leading `left` and a trailing `right`, two characters of the text. -/
def between? (left right : Char) : List Char → Option (List Char)
  | [] => none
  | c :: cs => if c = left && cs.getLast? = some right then some cs.dropLast else none

/-- The text inside surrounding double quotes. -/
def unquote? (cs : List Char) : Option (List Char) :=
  between? '"' '"' cs

end Flowscript.Text
