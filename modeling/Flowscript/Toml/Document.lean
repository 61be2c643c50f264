import Flowscript.Toml.Reader

/-!
# TOML documents from text

A document is built from its expressions in order: an entry goes to the table of the latest header,
and a header must not open a table a second time.
-/

namespace Flowscript.Toml

/-- The root of a document and the path to the table of the latest header. -/
structure Draft where
  root : Table
  path : List String

namespace Draft

/-- The draft with nothing in it. -/
def empty : Draft :=
  { root := ∅, path := [] }

/-- The draft with a table or element opened by `f` at the end of a path. -/
def openAt (d : Draft) (f : String → Table → Option Table) (keys : List String) : Option Draft :=
  match keys.getLast? with
  | none => none
  | some key => (updateAt (f key) keys.dropLast d.root).map fun root => { root, path := keys }

/-- The draft that a further expression makes of a draft. -/
def extend (d : Draft) : Expression → Option Draft
  | .blank => some d
  | .entry keys value =>
    (updateAt (insertEntry keys value) d.path d.root).map fun root => { d with root }
  | .header keys => d.openAt openTable keys
  | .element keys => d.openAt openElement keys

end Draft

/-- The byte order mark, which may stand at the start of a document. -/
def byteOrderMark : Char := Char.ofNat 0xFEFF

/-- Text without a byte order mark. -/
def skipMark : List Char → List Char
  | c :: rest => if c = byteOrderMark then rest else c :: rest
  | [] => []

/-- Reads a whole text as a document. -/
def read? (text : String) : Option Table :=
  (expressions? (skipMark text.toList)).bind fun expressions =>
    (expressions.foldlM Draft.extend .empty).map Draft.root

end Flowscript.Toml
