import FactGuard.Json.Basic

/-!
# Json/Draft — documents as they stand in a text, faults included

A `Draft` keeps what a text spells: members in document order with repeated names, and the places
where the text stops being a document. Nothing is refused while a draft is built; a fault is met by
whoever reads as far as it. There are two ways to go over a part of a draft: `Draft.read` takes its
value, and `Draft.skip` passes over a part nobody asked for, which overlooks numbers out of range,
surrogates without a partner, and nesting.
-/

namespace FactGuard.Json

/-- What can be wrong with the text of a document. -/
inductive Fault
  | endInValue
  | endInList
  | endInObject
  | endInText
  | expectedValue
  | expectedWord
  | expectedColon
  | expectedListSeparator
  | expectedObjectSeparator
  | nameNotText
  | trailingComma
  | trailingText
  | badNumber
  | numberOutOfRange
  | badEscape
  | unfinishedEscape
  | loneSurrogate
  | controlCharacter
  | tooDeep
  deriving DecidableEq, Repr

/-- The wording of a fault. -/
def Fault.message : Fault → String
  | endInValue => "EOF while parsing a value"
  | endInList => "EOF while parsing a list"
  | endInObject => "EOF while parsing an object"
  | endInText => "EOF while parsing a string"
  | expectedValue => "expected value"
  | expectedWord => "expected ident"
  | expectedColon => "expected `:`"
  | expectedListSeparator => "expected `,` or `]`"
  | expectedObjectSeparator => "expected `,` or `\x7d`"
  | nameNotText => "key must be a string"
  | trailingComma => "trailing comma"
  | trailingText => "trailing characters"
  | badNumber => "invalid number"
  | numberOutOfRange => "number out of range"
  | badEscape => "invalid escape"
  | unfinishedEscape => "unexpected end of hex escape"
  | loneSurrogate => "lone leading surrogate in hex escape"
  | controlCharacter => "control character (\\u0000-\\u001F) found while parsing a string"
  | tooDeep => "recursion limit exceeded"

/-- A scalar as spelled: what reading it gives, and the fault met by one who only skips it. -/
structure Spelling (α : Type) where
  read : Except Fault α
  skip : Option Fault

/-- How a list or an object ends. -/
inductive Close
  /-- With its bracket. -/
  | closed
  /-- The text ends first. -/
  | ended
  /-- The text ends after a comma. -/
  | endedAfterComma
  /-- Neither a comma nor the bracket follows. -/
  | unseparated
  /-- The bracket follows a comma. -/
  | trailingComma
  deriving DecidableEq, Repr

/-- What stands in the place of a member's name. -/
inductive Draft.Name
  | text (spelling : Spelling String)
  /-- Something other than a text. -/
  | stray

/-- A document as it stands in a text. The words `null`, `true` and `false` may be cut short; a list
or an object records whether its nesting is within the limit; `broken` is a place without a value. -/
inductive Draft
  | null (fault : Option Fault)
  | bool (value : Bool) (fault : Option Fault)
  | number (spelling : Spelling Number)
  | string (spelling : Spelling String)
  | list (withinLimit : Bool) (items : List Draft) (close : Close)
  | object (withinLimit : Bool) (members : List (Draft.Name × Draft)) (close : Close)
  | broken (fault : Fault)

instance : Inhabited Draft := ⟨.null none⟩

/-- The fault at the end of a list, met while taking its items. -/
def Close.inList : Close → Option Fault
  | closed => none
  | ended => some .endInList
  | endedAfterComma => some .endInValue
  | unseparated => some .expectedListSeparator
  | trailingComma => some .trailingComma

/-- The fault at the end of an object, met while taking its members. -/
def Close.inObject : Close → Option Fault
  | closed => none
  | ended => some .endInObject
  | endedAfterComma => some .endInValue
  | unseparated => some .expectedObjectSeparator
  | trailingComma => some .trailingComma

/-- The fault at the end of a list that is skipped. -/
def Close.inSkippedList : Close → Option Fault
  | trailingComma => some .expectedValue
  | close => close.inList

/-- The fault at the end of an object that is skipped. -/
def Close.inSkippedObject : Close → Option Fault
  | trailingComma => some .nameNotText
  | endedAfterComma => some .endInObject
  | close => close.inObject

/-- Raises a fault if there is one. -/
def Fault.raise : Option Fault → Except Fault Unit
  | none => .ok ()
  | some fault => .error fault

namespace Draft

/-- The text of a member's name. -/
def Name.read : Name → Except Fault String
  | text spelling => spelling.read
  | stray => .error .nameNotText

/-- The fault in a member's name that is skipped. -/
def Name.skip : Name → Option Fault
  | text spelling => spelling.skip
  | stray => some .nameNotText

mutual

/-- The value of a draft. -/
def read : Draft → Except Fault Json
  | null fault => do
    Fault.raise fault
    return .null
  | bool value fault => do
    Fault.raise fault
    return .bool value
  | number spelling => spelling.read.map .number
  | string spelling => spelling.read.map .string
  | list withinLimit items close => do
    if !withinLimit then throw .tooDeep
    let values ← readItems items
    Fault.raise close.inList
    return .array values
  | object withinLimit members close => do
    if !withinLimit then throw .tooDeep
    let values ← readMembers members
    Fault.raise close.inObject
    return Json.ofMembers values
  | broken fault => .error fault

/-- The values of the items of a list. -/
def readItems : List Draft → Except Fault (List Json)
  | [] => .ok []
  | item :: rest => do return (← read item) :: (← readItems rest)

/-- The names and values of the members of an object. -/
def readMembers : List (Name × Draft) → Except Fault (List (String × Json))
  | [] => .ok []
  | (name, value) :: rest => do
    let name ← name.read
    let value ← read value
    return (name, value) :: (← readMembers rest)

end

mutual

/-- Passes over a draft. -/
def skip : Draft → Except Fault Unit
  | null fault => Fault.raise fault
  | bool _ fault => Fault.raise fault
  | number spelling => Fault.raise spelling.skip
  | string spelling => Fault.raise spelling.skip
  | list _ items close => do
    skipItems items
    Fault.raise close.inSkippedList
  | object _ members close => do
    skipMembers members
    Fault.raise close.inSkippedObject
  | broken fault => .error fault

/-- Passes over the items of a list. -/
def skipItems : List Draft → Except Fault Unit
  | [] => .ok ()
  | item :: rest => do
    skip item
    skipItems rest

/-- Passes over the members of an object. -/
def skipMembers : List (Name × Draft) → Except Fault Unit
  | [] => .ok ()
  | (name, value) :: rest => do
    Fault.raise name.skip
    skip value
    skipMembers rest

end

end Draft

end FactGuard.Json
