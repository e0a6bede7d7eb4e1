import FactGuard.Command.Run

/-!
# Command/Arguments — the words of a command line

Options stand before or after the name of the command; those that concern every command may stand in both
places, and then the later place counts. An option is given once in a place, with its value after it or
behind an equals sign.
-/

namespace FactGuard.Command

/-- What an option takes. -/
inductive Operand
  /-- Nothing. -/
  | switch
  /-- Any text. -/
  | text
  /-- A path, which is not empty. -/
  | path
  /-- The name of a log format. -/
  | format
  deriving DecidableEq, Repr

/-- Whether an option may have a value. -/
def Operand.admits : Operand → String → Bool
  | switch, _ => false
  | text, _ => true
  | path, value => value ≠ ""
  | format, value => (Config.parseFormat value).toOption.isSome

/-- The options of every command. -/
def commonOptions : List (String × Operand) :=
  [("--config", .path), ("--log-level", .text), ("--log-format", .format)]

/-- The options of a command of the given name. -/
def optionsOf : String → Option (List (String × Operand))
  | "facts" => some [("--agent", .path), ("--json", .switch)]
  | "validate" => some [("--agent", .path), ("--guard", .path), ("--facts-from", .path)]
  | "translate" => some [("--guard", .path), ("--agent", .path)]
  | "evaluate" => some [("--agent", .path), ("--state", .path), ("--conversation", .text)]
  | "config" => some []
  | _ => none

/-- Whether a word can only be an option. A lone hyphen is none. -/
def looksLikeOption (word : String) : Bool := word.startsWith "-" && word ≠ "-"

/-- An option and the value behind its equals sign. -/
def splitOption (word : String) : String × Option String :=
  let chars := word.toList
  match chars.dropWhile (· ≠ '=') with
  | [] => (word, none)
  | _ :: value => (String.ofList (chars.takeWhile (· ≠ '=')), some (String.ofList value))

/-- Takes options off the front of the words, and leaves what follows the last of them. -/
def takeOptions (known : List (String × Operand)) :
    List (String × String) → List String → Option (List (String × String) × List String)
  | taken, [] => some (taken, [])
  | taken, word :: rest =>
    if word = "--" || !looksLikeOption word then some (taken, word :: rest)
    else
      let (name, value) := splitOption word
      match known.lookup name with
      | none => none
      | some operand =>
        if (taken.lookup name).isSome then none
        else match operand, value, rest with
          | .switch, none, rest => takeOptions known ((name, "") :: taken) rest
          | .switch, some _, _ => none
          | operand, some value, rest =>
            if operand.admits value then takeOptions known ((name, value) :: taken) rest else none
          | operand, none, value :: rest =>
            if !looksLikeOption value && operand.admits value then
              takeOptions known ((name, value) :: taken) rest
            else none
          | _, none, [] => none

/-- A command line that was understood. -/
structure Invocation where
  config : Option String
  level : Option String
  format : Option LogFormat
  command : Command

/-- The command of a name with its options. A guard and an agent are not checked together. -/
def ofOptions (name : String) (options : List (String × String)) : Option Command :=
  let agent := options.lookup "--agent"
  let guard := options.lookup "--guard"
  match name with
  | "facts" => some (.facts agent (options.lookup "--json").isSome)
  | "validate" =>
    match agent, guard with
    | some agent, none => some (.validateAgent agent)
    | none, some guard => some (.validateGuard guard (options.lookup "--facts-from"))
    | _, _ => none
  | "translate" => do return .translate (← guard) agent
  | "evaluate" => do
    return .evaluate (← agent) (← options.lookup "--state") (options.lookup "--conversation")
  | "config" => some .config
  | _ => none

/-- Understands the words of a command line. -/
def Invocation.ofWords (words : List String) : Option Invocation := do
  let (before, rest) ← takeOptions commonOptions [] words
  match rest with
  | [] => none
  | name :: rest =>
    let (after, rest) ← takeOptions (commonOptions ++ (← optionsOf name)) [] rest
    if rest ≠ [] && rest ≠ ["--"] then none
    let common (option : String) : Option String := after.lookup option <|> before.lookup option
    return {
      config := common "--config"
      level := common "--log-level"
      format := (common "--log-format").bind fun text => (Config.parseFormat text).toOption
      command := ← ofOptions name after }

/-- How settings are loaded for a command line: a file that is named must be there. -/
def Invocation.loadOptions (invocation : Invocation) : Config.LoadOptions :=
  { path := invocation.config
    requireFile := invocation.config.isSome
    overrides := { level := invocation.level, format := invocation.format } }

/-- The files that a command line may read. -/
def Invocation.paths (invocation : Invocation) : List String :=
  invocation.config.toList ++ Config.candidates ++ invocation.command.paths

/-- Loads the settings and runs the command of a command line. -/
def Invocation.run (invocation : Invocation) (files : Files) (environment : Environment) : Outcome :=
  match Config.load files environment invocation.loadOptions with
  | .ok settings => (invocation.command.run settings files environment invocation.config .empty).1
  | .error error =>
    .failure invocation.command.name "config_validation" ("configuration issue: " ++ error.message) 2

end FactGuard.Command
