import FactGuard.Command.Arguments

/-!
# Main — the program

Everything that a command line can read, its files and variables, is read first; what happens then is a
function of that.
-/

namespace FactGuard

/-- The number that the system gives an error. Some errors carry it with the opposite sign. -/
def errorNumber (code : UInt32) : Nat := min code.toNat (-code).toNat

/-- Why the system does not let a file be read. -/
def FileFault.ofError (error : IO.Error) : FileFault :=
  let number := match error with
    | .noFileOrDirectory _ code _ | .inappropriateType _ code _ | .invalidArgument _ code _
    | .permissionDenied _ code _ | .resourceExhausted _ code _ | .otherError code _ => errorNumber code
    | _ => 0
  match number with
  | 2 => .notFound
  | 13 => .forbidden
  | 20 => .notDirectory
  | 21 => .isDirectory
  | 36 => .nameTooLong
  | 40 => .linkLoop
  | _ => .other (toString error)

/-- Reads a file. -/
def readFile (path : String) : IO (Except FileFault String) := do
  try
    let content ← IO.FS.readBinFile path
    match String.fromUTF8? content with
    | some text => return .ok text
    | none => return .error .notUtf8
  catch error => return .error (.ofError error)

/-- Asks whether a path leads to anything, all links on the way followed. -/
def isPresent (path : String) : IO Bool := do
  try
    let _ ← IO.FS.realPath path
    return true
  catch _ => return false

/-- Asks all that is asked of the given paths. -/
def readFiles (paths : List String) : IO Files := do
  let found ← paths.mapM fun path => do return (path, ← isPresent path, ← readFile path)
  return {
    present := fun path => ((found.lookup path).map Prod.fst).getD false
    read := fun path => ((found.lookup path).map Prod.snd).getD (.error .notFound) }

/-- Reads the variables of the given names. Where the system has no listing of the bytes that variables
are set to, they are asked for as texts. -/
def readEnvironment (names : List String) : IO Environment := do
  try return .ofBlock (← IO.FS.readBinFile "/proc/self/environ")
  catch _ =>
    let values ← names.mapM fun name => do return (name, ← IO.getEnv name)
    return fun name => (values.lookup name).join

/-- Runs a command line that was understood. -/
def execute (invocation : Command.Invocation) : IO Command.Outcome := do
  let files ← readFiles invocation.paths
  let settings := (Config.resolvePath files invocation.config).bind fun path =>
    (files.read path).toOption
  let mentioned := Config.mentionedNames (settings.getD "").toList
  let environment ← readEnvironment (Config.variableNames ++ mentioned)
  return invocation.run files environment

end FactGuard

/-- Runs the program; a command line that is not understood is the caller's mistake. -/
def main (words : List String) : IO UInt32 := do
  match FactGuard.Command.Invocation.ofWords words with
  | none =>
    IO.eprintln "usage: leadguard [--config FILE] [--log-level LEVEL] [--log-format FORMAT] COMMAND"
    return 2
  | some invocation =>
    let outcome ← FactGuard.execute invocation
    IO.println outcome.output.text
    return UInt32.ofNat outcome.exitCode
