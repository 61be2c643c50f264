import Flowscript.Dict
import Flowscript.Failure
import Flowscript.Files.Path
import Flowscript.Run.Event

/-!
# Hosts

What a program may ask the machine it runs on. The questions are answered in a monad, so that the
same program works on a machine and on files that are mere data.
-/

namespace Flowscript

/-- What a path may lead to. -/
inductive FileKind where
  | file
  | directory
  deriving DecidableEq, Repr

/-- Answers to questions: what a path leads to, the content of a file, the names in a directory, the
value of an environment variable, an identifier for a run, and the time. -/
structure Host (m : Type → Type) where
  kind? : String → m (Option FileKind)
  content? : String → m (Option ByteArray)
  names? : String → m (Option (List String))
  env? : String → m (Option String)
  newRun : m RunId
  time : m String

namespace Host

variable {m : Type → Type} [Monad m]

/-- Whether a path leads to a file. -/
def isFile (host : Host m) (path : String) : m Bool := do
  return (← host.kind? path) = some .file

/-- Whether a path leads to a directory. -/
def isDirectory (host : Host m) (path : String) : m Bool := do
  return (← host.kind? path) = some .directory

/-- The text that some bytes encode. -/
def decode : Option ByteArray → Except Failure String
  | none => .error (.unreadable "No such file or directory (os error 2)")
  | some bytes =>
    match String.fromUTF8? bytes with
    | none => .error (.unreadable "stream did not contain valid UTF-8")
    | some text => .ok text

/-- The text of a file. -/
def text (host : Host m) (path : String) : m (Except Failure String) := do
  return decode (← host.content? path)

/-- The values of the environment variables among some names. -/
def environment (host : Host m) (names : List String) : m (Dict String) := do
  let values ← names.mapM host.env?
  return .ofList ((names.zip values).filterMap fun (name, value) => value.map (name, ·))

/-- The paths of the files with an extension among the names in a directory, in order of the
names. -/
def withExtension (host : Host m) (directory extension : String) (names : List String) :
    m (List String) := do
  let chosen := names.filter fun name => Path.extension? name = some extension
  let paths := (chosen.mergeSort fun a b => a ≤ b).map (Path.join directory)
  paths.filterM host.isFile

end Host

end Flowscript
