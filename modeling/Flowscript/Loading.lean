import Flowscript.Engine
import Flowscript.Files.Host

/-!
# Loading workflows

An engine loads the workflows of a directory from the files with a given extension, in order of the
file names. The first file that is no workflow ends this; what was loaded before stays.
-/

namespace Flowscript.Engine

/-- Loads the workflows of a directory. -/
def loadDirectory {m : Type → Type} [Monad m] (host : Host m) (directory extension : String)
    (engine : Engine) : m (Except Failure (List String) × Engine) := do
  match ← host.names? directory with
  | none => return (.error (.unreadable "No such directory"), engine)
  | some names =>
    let paths ← host.withExtension directory extension names
    return engine.registerAll (← paths.mapM host.text)

end Flowscript.Engine
