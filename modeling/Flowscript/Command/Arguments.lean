import Flowscript.Text.Cut

/-!
# Arguments

The arguments of the command line: options before the name of an action, and the options and the
operand of that action. An option has a long name and may have a letter; its value follows it, or is
attached to it. Two dashes alone say that only operands follow.
-/

namespace Flowscript.Command

/-- An option that has a value. -/
structure ValueOption where
  name : String
  letter : Char
  mayBeEmpty : Bool

/-- What the operands mean. -/
inductive Operands where
  | none
  | one (mayBeEmpty : Bool)
  | rest

/-- The options and operands that are understood. -/
structure Signature where
  options : List ValueOption
  flags : List String
  version : Bool
  operands : Operands

/-- What was found among arguments: values of options, flags, and an operand. -/
structure Found where
  values : List (String × String)
  flags : List String
  operand : Option String

/-- Why arguments are not read to their end. -/
inductive Stop where
  | usage
  | help
  | version
  deriving DecidableEq, Repr

namespace Found

/-- Nothing. -/
def nothing : Found :=
  { values := [], flags := [], operand := none }

/-- The value of an option. -/
def value? (found : Found) (name : String) : Option String :=
  (found.values.find? fun entry => entry.1 = name).map (·.2)

/-- Adds the value of an option, which may have only one. -/
def addValue (found : Found) (o : ValueOption) (value : String) : Except Stop Found :=
  if (found.value? o.name).isSome || (value.isEmpty && !o.mayBeEmpty) then .error .usage
  else .ok { found with values := (o.name, value) :: found.values }

/-- Adds a flag, which may stand only once. -/
def addFlag (found : Found) (name : String) : Except Stop Found :=
  if found.flags.contains name then .error .usage
  else .ok { found with flags := name :: found.flags }

/-- Adds an operand. -/
def addOperand (found : Found) (operands : Operands) (operand : String) : Except Stop Found :=
  match operands, found.operand with
  | .one mayBeEmpty, none =>
    if operand.isEmpty && !mayBeEmpty then .error .usage
    else .ok { found with operand := some operand }
  | _, _ => .error .usage

end Found

/-- What an argument is. -/
inductive Argument where
  | mark
  | operand
  | flag (name : String)
  | option (o : ValueOption) (value : Option String)
  | stop (cause : Stop)

/-- What an argument with a long name is. -/
def longArgument (sig : Signature) (cs : List Char) : Argument :=
  let (name, value) := match Text.cutAt? '=' cs with
    | some (name, value) => (String.ofList name, some (String.ofList value))
    | none => (String.ofList cs, none)
  match sig.options.find? fun o => o.name = name with
  | some o => .option o value
  | none =>
    if value.isSome then .stop .usage
    else if sig.flags.contains name then .flag name
    else if name = "help" then .stop .help
    else if name = "version" && sig.version then .stop .version
    else .stop .usage

/-- What an argument with a letter and further text is. -/
def shortArgument (sig : Signature) (letter : Char) (cs : List Char) : Argument :=
  match sig.options.find? fun o => o.letter = letter with
  | some o =>
    match cs with
    | [] => .option o none
    | '=' :: value => .option o (some (String.ofList value))
    | value => .option o (some (String.ofList value))
  | none =>
    if letter = 'h' then .stop .help
    else if letter = 'V' && sig.version then .stop .version
    else .stop .usage

/-- What an argument is. -/
def argument (sig : Signature) (arg : String) : Argument :=
  match arg.toList with
  | ['-', '-'] => .mark
  | '-' :: '-' :: cs => longArgument sig cs
  | '-' :: letter :: cs => shortArgument sig letter cs
  | _ => .operand

/-- Reads arguments behind the mark that only operands follow. -/
def readOperands (sig : Signature) (found : Found) (args : List String) : Except Stop Found :=
  args.foldlM (fun found arg => found.addOperand sig.operands arg) found

/-- Reads arguments. Where the operands are not part of the signature, it stops at the first one and
returns that and what is behind it. -/
def readArguments (sig : Signature) (found : Found) : List String →
    Except Stop (Found × List String)
  | [] => .ok (found, [])
  | arg :: rest =>
    match argument sig arg with
    | .mark => (readOperands sig found rest).map (·, [])
    | .stop cause => .error cause
    | .flag name =>
      match found.addFlag name with
      | .error cause => .error cause
      | .ok found => readArguments sig found rest
    | .option o (some value) =>
      match found.addValue o value with
      | .error cause => .error cause
      | .ok found => readArguments sig found rest
    | .option o none =>
      match rest with
      | [] => .error .usage
      | value :: rest =>
        match argument sig value with
        | .operand =>
          match found.addValue o value with
          | .error cause => .error cause
          | .ok found => readArguments sig found rest
        | _ => .error .usage
    | .operand =>
      match sig.operands with
      | .rest => .ok (found, arg :: rest)
      | operands =>
        match found.addOperand operands arg with
        | .error cause => .error cause
        | .ok found => readArguments sig found rest

/-- What the program is asked to do. -/
inductive Action where
  | parse (file : String)
  | run (target input : String) (trace : Bool)
  | catalog (file : String)
  | list
  | config

/-- An action and the path of the settings. -/
structure Invocation where
  settings : String
  action : Action

/-- The options before the name of an action. -/
def outerSignature : Signature :=
  { options := [{ name := "config", letter := 'c', mayBeEmpty := false }]
    flags := []
    version := true
    operands := .rest }

/-- An action without options and operands. -/
def bareSignature : Signature :=
  { options := [], flags := [], version := false, operands := .none }

/-- An action on a file. -/
def fileSignature : Signature :=
  { bareSignature with operands := .one false }

/-- The action that runs a workflow. -/
def runSignature : Signature :=
  { options := [{ name := "input", letter := 'i', mayBeEmpty := true }]
    flags := ["trace"]
    version := false
    operands := .one true }

/-- Whether help is there on some arguments: on none at all, and on the name of an action. -/
def isHelpTopic : List String → Bool
  | [] => true
  | [name] => ["parse", "run", "export", "list", "config", "help"].contains name
  | _ => false

/-- An action on what was found among its arguments. -/
def actionOf (name : String) (args : List String) : Except Stop Action :=
  let reading (sig : Signature) (action : Found → Option Action) : Except Stop Action :=
    match readArguments sig .nothing args with
    | .error cause => .error cause
    | .ok (found, _) =>
      match action found with
      | none => .error .usage
      | some action => .ok action
  match name with
  | "parse" => reading fileSignature fun found => found.operand.map .parse
  | "run" =>
    reading runSignature fun found => found.operand.map fun target =>
      .run target ((found.value? "input").getD "\x7b\x7d") (found.flags.contains "trace")
  | "export" => reading fileSignature fun found => found.operand.map .catalog
  | "list" => reading bareSignature fun _ => some .list
  | "config" => reading bareSignature fun _ => some .config
  | "help" => .error (if isHelpTopic args then .help else .usage)
  | _ => .error .usage

/-- What the arguments of the program ask for. -/
def invocation (args : List String) : Except Stop Invocation :=
  match readArguments outerSignature .nothing args with
  | .error cause => .error cause
  | .ok (_, []) => .error .usage
  | .ok (found, name :: args) =>
    match actionOf name args with
    | .error cause => .error cause
    | .ok action =>
      .ok { settings := (found.value? "config").getD "agentflow.toml", action }

end Flowscript.Command
