import FactGuard.Failure
import FactGuard.Files
import FactGuard.Json.Printer
import FactGuard.Json.Writer

/-!
# Command/Outcome — what a command prints and how it exits

A command prints plain text or an envelope: one object that names the command, says whether it went well,
and carries a message and possibly data.
-/

namespace FactGuard.Command

/-- An envelope. Without an error class, all went well. -/
structure Envelope where
  command : String
  errorClass : Option String
  message : String
  data : Option Json

/-- An envelope as a document; its members keep this order. -/
def Envelope.toJson (envelope : Envelope) : Json :=
  .object ([
    ("command", .string envelope.command),
    ("status", .string (if envelope.errorClass.isNone then "ok" else "error")),
    ("error_class", Json.ofText? envelope.errorClass),
    ("message", .string envelope.message)] ++
    Json.memberOf "data" envelope.data)

/-- What a command prints. -/
inductive Output
  | plain (text : String)
  | envelope (envelope : Envelope)

/-- The printed text. -/
def Output.text : Output → String
  | .plain content => content
  | .envelope content => content.toJson.text

/-- The outcome of a command. -/
structure Outcome where
  exitCode : Nat
  output : Output

namespace Outcome

/-- Plain text. -/
def plain (text : String) : Outcome := ⟨0, .plain text⟩

/-- All went well. -/
def success (command message : String) (data : Option Json := none) : Outcome :=
  ⟨0, .envelope ⟨command, none, message, data⟩⟩

/-- Something went wrong. -/
def failure (command errorClass message : String) (exitCode : Nat) (data : Option Json := none) :
    Outcome :=
  ⟨exitCode, .envelope ⟨command, some errorClass, message, data⟩⟩

end Outcome

/-- Why a command cannot do its work. -/
inductive Trouble
  /-- A file cannot be read. -/
  | file (what : String) (fault : FileFault)
  /-- The document of an agent cannot be read. -/
  | agent (what : String) (reason : String)
  /-- Another document cannot be read. -/
  | input (what : String) (reason : String)

namespace Trouble

/-- The wording of a trouble. -/
def message : Trouble → String
  | file what fault => what ++ ": " ++ fault.message
  | agent what reason => what ++ ": " ++ (Failure.document reason).message
  | input what reason => what ++ ": " ++ reason

/-- The outcome of a command in trouble. Files are the environment's business, documents are input. -/
def outcome (command : String) (trouble : Trouble) : Outcome :=
  match trouble with
  | file _ _ => .failure command "io" trouble.message 2
  | agent _ reason =>
    let cause := Failure.document reason
    .failure command cause.errorClass trouble.message cause.exitCode
  | input _ _ => .failure command "input" trouble.message 1

end Trouble

end FactGuard.Command
