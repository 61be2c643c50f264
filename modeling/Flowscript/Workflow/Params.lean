import Flowscript.Dict
import Flowscript.Text.Blank
import Flowscript.Text.Cut

/-!
# Parameter lists

A parameter list is written `key=value, key="value, with commas"`. Commas outside double quotes
separate parameters. A backslash stands for the character behind it, whatever that is, and an
escaped quote neither opens nor closes a quoted stretch. Parts without an equals sign are ignored.
-/

namespace Flowscript.Params

/-- The parts between the commas outside quotes, escapes resolved and quotes kept. -/
def parts (quoted : Bool) : List Char → List Char × List (List Char)
  | [] => ([], [])
  | ['\\'] => ([], [])
  | '\\' :: c :: rest =>
    let (part, more) := parts quoted rest
    (c :: part, more)
  | c :: rest =>
    if c = ',' && !quoted then
      let (part, more) := parts quoted rest
      ([], part :: more)
    else
      let (part, more) := parts (if c = '"' then !quoted else quoted) rest
      (c :: part, more)

/-- The key and the value of a part, without blanks around them and quotes around the value. -/
def entry? (part : List Char) : Option (String × String) :=
  (Text.cutAt? '=' (Text.trim part)).map fun (key, value) =>
    let value := Text.trim value
    (String.ofList (Text.trim key), String.ofList ((Text.unquote? value).getD value))

/-- The parameters of a list; of two with one key the later counts. -/
def read (cs : List Char) : Dict String :=
  let (part, more) := parts false cs
  .ofList ((part :: more).filterMap entry?)

end Flowscript.Params
