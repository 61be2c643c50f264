import Flowscript.Dict
import Flowscript.Files.Environment
import Flowscript.Files.Host

/-!
# Files as data

A tree of directories and files, and a working directory that relative paths start from.
-/

namespace Flowscript

/-- A file with its content, or a directory with what it holds under names. -/
inductive FileTree where
  | file (content : ByteArray)
  | directory (entries : Dict FileTree)

namespace FileTree

/-- The directory that holds nothing. -/
def empty : FileTree := .directory ∅

/-- What a tree is. -/
def kind : FileTree → FileKind
  | file _ => .file
  | directory _ => .directory

/-- The entries of a directory; a file has none. -/
def entries : FileTree → Dict FileTree
  | file _ => ∅
  | directory entries => entries

/-- The tree with `new` at a path, and directories on the way there. -/
def write (t : FileTree) (path : List String) (new : FileTree) : FileTree :=
  match path with
  | [] => new
  | name :: path =>
    let inner := (t.entries.get? name).getD empty
    .directory (t.entries.insert name (inner.write path new))

/-- What names lead to from a tree. `outer` are the directories around it, the innermost first; the
root is its own outer directory. -/
def follow (outer : List FileTree) (t : FileTree) : List String → Option FileTree
  | [] => some t
  | name :: path =>
    match t with
    | .file _ => none
    | .directory entries =>
      if Path.isIdle name then follow outer t path
      else if name = ".." then
        match outer with
        | [] => follow [] t path
        | parent :: outer => follow outer parent path
      else
        match entries.get? name with
        | none => none
        | some next => follow (t :: outer) next path

end FileTree

/-- A file system: its root, and the names that lead to the working directory. -/
structure Disk where
  root : FileTree
  working : List String

namespace Disk

/-- What a path leads to. -/
def find? (d : Disk) (path : String) : Option FileTree :=
  if path.isEmpty then none
  else if Path.isAbsolute path then d.root.follow [] (Path.names path)
  else d.root.follow [] (d.working ++ Path.names path)

/-- The disk with a tree at a path, which starts from the working directory. -/
def write (d : Disk) (path : String) (new : FileTree) : Disk :=
  let names := (Path.names path).filter fun name => !Path.isIdle name
  { d with root := d.root.write (d.working ++ names) new }

/-- The content of a file. -/
def content? (d : Disk) (path : String) : Option ByteArray :=
  match d.find? path with
  | some (.file content) => some content
  | _ => none

/-- The names in a directory. -/
def names? (d : Disk) (path : String) : Option (List String) :=
  match d.find? path with
  | some (.directory entries) => some entries.keys
  | _ => none

/-- The host with the files of a disk and an environment, on which one run is started and time
stands still. -/
def host (d : Disk) (env : Environment) (run : RunId) (time : String) : Host Id where
  kind? path := (d.find? path).map FileTree.kind
  content? path := d.content? path
  names? path := d.names? path
  env? name := env.value? name
  newRun := run
  time := time

end Disk

end Flowscript
