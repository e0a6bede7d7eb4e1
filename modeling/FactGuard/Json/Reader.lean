import FactGuard.Json.Token

/-!
# Json/Reader — from the words of a text to a draft

The reader is a machine that takes one token at a time. It keeps the lists and objects that are
still open, innermost first, and the kind of token that may come next; where another one comes, or
the text ends, the draft is closed at that place with the fault.
-/

namespace FactGuard.Json

/-- A list or an object that is still open, with its parts in reverse. -/
inductive Reader.Frame
  | list (items : List Draft)
  | object (members : List (Draft.Name × Draft)) (name : Draft.Name)

/-- What may come next. -/
inductive Reader.Stage
  /-- A value. -/
  | value
  /-- The first item of a list, or its bracket. -/
  | firstItem
  /-- An item after a comma. -/
  | nextItem
  /-- A comma, or the bracket of a list. -/
  | itemEnd
  /-- The first member of an object, or its bracket. -/
  | firstName
  /-- A member after a comma. -/
  | nextName
  /-- The colon after a name. -/
  | colon
  /-- A comma, or the bracket of an object. -/
  | memberEnd
  /-- Nothing: the document is complete. -/
  | complete
  /-- Anything: a fault was met, and what follows does not count. -/
  | halted

/-- The state of the reader. -/
structure Reader where
  frames : List Reader.Frame
  stage : Reader.Stage
  root : Draft
  trailing : Bool

/-- A document as it stands in a text: its root, and whether more follows it. -/
structure Document where
  root : Draft
  trailing : Bool

namespace Reader

/-- The greatest nesting of lists and objects that is read. -/
def nestingLimit : Nat := 127

/-- Before the first token. -/
def start : Reader := ⟨[], .value, .null none, false⟩

/-- A list or an object that ends in the given way inside `outer` open ones. -/
def Frame.close (close : Close) (outer : Nat) : Frame → Draft
  | list items => .list (outer < nestingLimit) items.reverse close
  | object members _ => .object (outer < nestingLimit) members.reverse close

/-- Puts a complete value where it belongs. -/
def put (value : Draft) (reader : Reader) : Reader :=
  match reader.frames with
  | [] => { reader with root := value, stage := .complete }
  | .list items :: outer => { reader with frames := .list (value :: items) :: outer, stage := .itemEnd }
  | .object members name :: outer =>
    { reader with frames := .object ((name, value) :: members) name :: outer, stage := .memberEnd }

/-- Closes the innermost list or object. -/
def closeInner (close : Close) (reader : Reader) : Reader :=
  match reader.frames with
  | [] => reader
  | frame :: outer => put (frame.close close outer.length) { reader with frames := outer }

/-- Stops at a fault. -/
def halt (reader : Reader) : Reader := { reader with stage := .halted }

/-- Opens a list. -/
def openList (reader : Reader) : Reader :=
  { reader with frames := .list [] :: reader.frames, stage := .firstItem }

/-- Opens an object. -/
def openObject (reader : Reader) : Reader :=
  { reader with
    frames := .object [] (.text ⟨.ok "", none⟩) :: reader.frames, stage := .firstName }

/-- Takes a token where a value starts. -/
def takeValue (token : Token) (reader : Reader) : Reader :=
  match token with
  | .openList => reader.openList
  | .openObject => reader.openObject
  | .text spelling => reader.put (.string spelling)
  | .scalar value => reader.put value
  | _ => halt (reader.put (.broken .expectedValue))

/-- Takes a token where a member starts. -/
def takeName (token : Token) (reader : Reader) : Reader :=
  match reader.frames with
  | .object members _ :: outer =>
    match token with
    | .text spelling =>
      { reader with frames := .object members (.text spelling) :: outer, stage := .colon }
    | _ =>
      halt { reader with frames := .object ((.stray, .null none) :: members) .stray :: outer }
  | _ => reader.halt

/-- Takes one token. -/
def step (reader : Reader) (token : Token) : Reader :=
  match reader.stage, token with
  | .value, token => reader.takeValue token
  | .firstItem, .closeList => reader.closeInner .closed
  | .firstItem, token => reader.takeValue token
  | .nextItem, .closeList => halt (reader.closeInner .trailingComma)
  | .nextItem, token => reader.takeValue token
  | .itemEnd, .comma => { reader with stage := .nextItem }
  | .itemEnd, .closeList => reader.closeInner .closed
  | .itemEnd, _ => halt (reader.closeInner .unseparated)
  | .firstName, .closeObject => reader.closeInner .closed
  | .firstName, token => reader.takeName token
  | .nextName, .closeObject => halt (reader.closeInner .trailingComma)
  | .nextName, token => reader.takeName token
  | .colon, .colon => { reader with stage := .value }
  | .colon, _ => halt (reader.put (.broken .expectedColon))
  | .memberEnd, .comma => { reader with stage := .nextName }
  | .memberEnd, .closeObject => reader.closeInner .closed
  | .memberEnd, _ => halt (reader.closeInner .unseparated)
  | .complete, _ => { reader with trailing := true }
  | .halted, _ => reader

/-- Meets the end of the text. -/
def finish (reader : Reader) : Reader :=
  match reader.stage with
  | .value => reader.put (.broken .endInValue)
  | .nextItem => reader.put (.broken .endInValue)
  | .colon => reader.put (.broken .endInObject)
  | .nextName => reader.closeInner .endedAfterComma
  | .firstItem | .itemEnd | .firstName | .memberEnd => reader.closeInner .ended
  | .complete | .halted => reader

/-- Closes what is still open around a fault. -/
def collapse : Nat → Reader → Reader
  | 0, reader => reader
  | fuel + 1, reader => collapse fuel (reader.closeInner .ended)

end Reader

namespace Document

/-- The document that a text spells. -/
def ofString (text : String) : Document :=
  let reader := ((Token.ofChars text.toList).foldl Reader.step .start).finish
  let whole := reader.collapse reader.frames.length
  ⟨whole.root, whole.trailing⟩

/-- The value of a document; nothing may follow it. -/
def read (document : Document) : Except Fault Json := do
  let value ← document.root.read
  if document.trailing then throw .trailingText
  return value

end Document

/-- Reads the value of a text. -/
def ofString (text : String) : Except Fault Json := (Document.ofString text).read

end FactGuard.Json
