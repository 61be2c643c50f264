import Flowscript.Dict

/-!
# Environment variables

An environment is a list of entries, each a name, an equals sign and a value in one text. Whoever
looks for a name takes what follows it and an equals sign in an entry. So a name with an equals sign
in it is found where the value of a shorter name goes on as it does.
-/

namespace Flowscript

/-- Entries of the form `name=value`. -/
structure Environment where
  entries : List String

namespace Environment

/-- The environment with the given values under names. -/
def ofDict (values : Dict String) : Environment :=
  { entries := values.entries.map fun (name, value) => name ++ "=" ++ value }

/-- The value under a name. -/
def value? (env : Environment) (name : String) : Option String :=
  (env.entries.findSome? fun entry => (name ++ "=").toList.isPrefixOf? entry.toList).map
    String.ofList

end Environment

end Flowscript
