import Flowscript.Text.Cut

/-!
# Paths

A path is text: names with slashes between them. A leading slash makes it absolute; repeated
slashes, and points that stand for the directory they are in, mean nothing.
-/

namespace Flowscript.Path

/-- Whether a path starts from the root. -/
def isAbsolute (path : String) : Bool :=
  path.toList.head? = some '/'

/-- The path of `path` inside the directory `base`. -/
def join (base path : String) : String :=
  if isAbsolute path || base.isEmpty then path
  else if base.toList.getLast? = some '/' then base ++ path
  else base ++ "/" ++ path

/-- The names between the slashes of a path. -/
def names (path : String) : List String :=
  (Text.pieces '/' path.toList).map String.ofList

/-- Whether a name leads nowhere else. -/
def isIdle (name : String) : Bool :=
  name = "" || name = "."

/-- The directory that a path stands in, as far as its text tells; none for an empty path and for
the root. -/
def parent? (path : String) : Option String :=
  match names path with
  | [] => none
  | first :: more =>
    match more.reverse.dropWhile isIdle with
    | [] => if first = "" then none else some ""
    | _ :: before =>
      match (before.dropWhile isIdle).reverse with
      | [] => some (if first = "" then "/" else first)
      | kept => some ("/".intercalate (first :: kept))

/-- What follows the last point of a file name; none if no other point than a leading one is in it.
-/
def extension? (name : String) : Option String :=
  match Text.cutLast? '.' name.toList with
  | some (_ :: _, extension) => some (String.ofList extension)
  | _ => none

end Flowscript.Path
