import Flowscript.Command.Perform
import Std.Time.Format

/-!
# The program

Connects the commands with the files, the environment, the arguments and the output of the machine.
-/

namespace Flowscript.Machine

/-- What a path leads to. -/
def kind? (path : String) : IO (Option FileKind) := do
  if path.isEmpty then return none
  try
    let data ← ((← IO.currentDir) / path).metadata
    return some (if data.type matches .dir then .directory else .file)
  catch _ => return none

/-- The content of a file. -/
def content? (path : String) : IO (Option ByteArray) := do
  try return some (← IO.FS.readBinFile path)
  catch _ => return none

/-- The names in a directory. -/
def names? (path : String) : IO (Option (List String)) := do
  try
    let entries ← ((← IO.currentDir) / path).readDir
    return some (entries.toList.map fun entry => entry.fileName)
  catch _ => return none

/-- A fresh identifier: five groups of random hexadecimal digits. -/
def newRun : IO RunId := do
  let group (digits : Nat) : IO String := do
    let n ← IO.rand 0 ((1 <<< (4 * digits)) - 1)
    let text := Text.hex n
    return String.ofList (List.replicate (digits - text.length) '0' ++ text)
  let groups ← [8, 4, 4, 4, 12].mapM group
  return ⟨"-".intercalate groups⟩

/-- The present time. -/
def time : IO String := do
  let now := Std.Time.DateTime.ofTimestamp (← Std.Time.Timestamp.now) .UTC
  return now.format "uuuu-MM-dd'T'HH:mm:ss.SSSSSSSSS'Z'"

/-- The host that the program runs on. -/
def host : Host IO where
  kind? := kind?
  content? := content?
  names? := names?
  env? name := IO.getEnv name
  newRun := newRun
  time := time

end Flowscript.Machine

open Flowscript in
/-- Answers the arguments of the program. -/
def main (args : List String) : IO UInt32 := do
  let response ← Command.respond Machine.host args
  IO.print response.output
  if let some message := response.error then IO.eprintln ("Error: " ++ message)
  return .ofNat response.exit
