/-
  The command line.

  There are two commands, which need a manifest:

  1. `resolve` shows what a request would offer to a model;
  2. `parse` takes a name apart that a model sent, and looks it up.

  `Command.ofArguments` reads the arguments of the program; anything it does not understand is a
  usage error.  `Command.run` carries a command out.  It reads files through a function it is
  given, so that it does not depend on where they are.
-/
import FunctionCalling.Json.Printer
import FunctionCalling.Settings

namespace FunctionCalling.CommandLine

open FunctionCalling.Choice (Behavior)
open FunctionCalling.Text

/-! ## Arguments -/

/-- An argument or an option with its value. -/
inductive Item where
  | positional (text : String)
  | option (name value : String)
  | flag (name : String)
deriving DecidableEq, Repr

/-- The options a command has: those with a value and those without. -/
structure Options where
  valued : List String
  flags : List String

/-- Whether an argument is an option by its form; a hyphen alone is none. -/
def isOption (argument : String) : Bool :=
  argument.startsWith "-" && argument != "-"

/-- The name of a long option and the value attached to it. -/
def longOption? (argument : String) : Option (String × Option String) :=
  (dropLead? ['-', '-'] argument.toList).map fun body =>
    match splitFirst ['='] body with
    | some (name, value) => (String.ofList name, some (String.ofList value))
    | none => (String.ofList body, none)

/-- Sorts arguments into options and others.  After `--` there are no more options; the value of
    an option that is not attached to it must not look like an option. -/
def Options.scan (options : Options) : List String → Option (List Item)
  | [] => some []
  | argument :: rest =>
    if argument = "--" then some (rest.map .positional)
    else if isOption argument then
      match longOption? argument with
      | none => none
      | some (name, some value) =>
        if options.valued.contains name then (options.scan rest).map (.option name value :: ·)
        else none
      | some (name, none) =>
        if options.flags.contains name then (options.scan rest).map (.flag name :: ·)
        else if options.valued.contains name then
          match rest with
          | [] => none
          | value :: rest =>
            if isOption value then none
            else (options.scan rest).map (.option name value :: ·)
        else none
    else (options.scan rest).map (.positional argument :: ·)

/-- The values given for an option. -/
def valuesOf (items : List Item) (name : String) : List String :=
  items.filterMap fun
    | .option n value => if n = name then some value else none
    | _ => none

/-- The arguments that belong to no option. -/
def positionals (items : List Item) : List String :=
  items.filterMap fun
    | .positional text => some text
    | _ => none

/-- The value of an option that may be given once. -/
def single? (items : List Item) (name : String) : Option (Option String) :=
  match valuesOf items name with
  | [] => some none
  | [value] => some (some value)
  | _ => none

/-- The path in an option that may be given once; a path is not empty. -/
def path? (items : List Item) (name : String) : Option (Option String) :=
  match single? items name with
  | some (some "") => none
  | other => other

/-- The parts of a text between commas. -/
def commaParts (text : String) : List String :=
  (text.toList.splitOn ',').map String.ofList

/-! ## Commands -/

/-- What the program is asked to do. -/
inductive Command where
  | version
  | resolve (plugins : String) (settings : Option String)
  | parse (fqn plugins : String) (policy : PolicySettings)
deriving DecidableEq, Repr

/-- Reads the arguments of `resolve`. -/
def resolveCommand? (arguments : List String) : Option Command := do
  let items ← Options.scan ⟨["plugins", "settings"], []⟩ arguments
  let plugins ← ← path? items "plugins"
  let settings ← path? items "settings"
  if (positionals items).isEmpty then some (.resolve plugins settings) else none

/-- Reads the arguments of `parse`. -/
def parseCommand? (arguments : List String) : Option Command := do
  let items ← Options.scan ⟨["plugins", "separator", "fallback"], ["function-name-only"]⟩ arguments
  let plugins ← ← path? items "plugins"
  let separator ← single? items "separator"
  let fallback := (valuesOf items "fallback").flatMap commaParts
  let policy (nameOnly : Bool) : PolicySettings :=
    ⟨separator.getD Naming.defaultSeparator, nameOnly, fallback⟩
  match positionals items, items.count (.flag "function-name-only") with
  | [fqn], 0 => some (.parse fqn plugins (policy false))
  | [fqn], 1 => some (.parse fqn plugins (policy true))
  | _, _ => none

/-- Reads the arguments of the program; the version is asked for before any command. -/
def Command.ofArguments : List String → Option Command
  | "resolve" :: rest => resolveCommand? rest
  | "parse" :: rest => parseCommand? rest
  | "--version" :: _ => some .version
  | first :: _ => if first.startsWith "-V" then some .version else none
  | [] => none

/-! ## Carrying out -/

/-- What the program tells its version with. -/
def versionLine : String := "fnkernel 0.1.0"

/-- What a request offers under settings. -/
def resolution (registry : Registry) (settings : ExecutionSettings) : Except Error Json := do
  let behavior ←
    match settings.behavior with
    | some s => s.toBehavior (some registry)
    | none => pure .default
  let configuration ← behavior.configuration (some registry) []
  let tools := configuration.tools settings.policy.toPolicy
  return .object
    [("tool_choice", ((configuration.toolChoice.map fun m => Json.text m.word).getD .null)),
     ("auto_invoke", .bool configuration.autoInvoke),
     ("tools", .list (tools.map ToolDefinition.shape.encode))]

/-- A name taken apart under a policy, and what it stands for. -/
def reading (registry : Registry) (policy : Naming.Policy) (fqn : String) : Json :=
  let parsed := policy.parse fqn (some registry)
  let orNull (s : Option String) : Json := (s.map .text).getD .null
  .object
    [("plugin_name", orNull parsed.plugin),
     ("function_name", .text parsed.function),
     ("resolved", orNull ((parsed.resolve registry).map Callable.qualifiedName))]

/-- A value as the program prints it: indented, with sorted keys. -/
def printed (v : Json) : String :=
  v.sorted.pretty

section

variable {m : Type → Type} [Monad m] (read : String → m (Except ReadFault String))

/-- Loads what a file holds. -/
def load {α : Type} (ofText : String → Except Error α) (path : String) : m (Except Error α) := do
  match ← read path with
  | .error fault => return .error (.read path fault)
  | .ok text => return ofText text

/-- Loads a manifest and makes its registry. -/
def loadRegistry (path : String) : m (Except Error Registry) :=
  load read (fun text => Manifest.ofText text >>= Manifest.toRegistry) path

/-- Carries a command out: what the program prints, or what goes wrong. -/
def Command.run : Command → m (Except Error String)
  | .version => return .ok versionLine
  | .resolve plugins settings => do
    match ← loadRegistry read plugins with
    | .error fault => return .error fault
    | .ok registry =>
      match settings with
      | none => return (resolution registry .default).map printed
      | some path =>
        match ← load read ExecutionSettings.ofText path with
        | .error fault => return .error fault
        | .ok settings => return (resolution registry settings).map printed
  | .parse fqn plugins policy => do
    match ← loadRegistry read plugins with
    | .error fault => return .error fault
    | .ok registry => return .ok (printed (reading registry policy.toPolicy fqn))

end

/-! ## The program -/

/-- How the program ends: the exit code and what goes to the two outputs. -/
structure Ending where
  code : UInt8
  output : String
  errors : String
deriving DecidableEq, Repr

/-- The end of a command that printed a text or failed. -/
def Ending.ofResult : Except Error String → Ending
  | .ok text => ⟨0, text ++ "\n", ""⟩
  | .error fault => ⟨1, "", "Error: " ++ fault.message ++ "\n"⟩

/-- The end of a program whose arguments are not understood. -/
def Ending.usage : Ending :=
  ⟨2, "", "error: invalid arguments\n"⟩

/-- The whole program. -/
def program {m : Type → Type} [Monad m] (read : String → m (Except ReadFault String))
    (arguments : List String) : m Ending :=
  match Command.ofArguments arguments with
  | none => pure .usage
  | some command => do return .ofResult (← command.run read)

end FunctionCalling.CommandLine
