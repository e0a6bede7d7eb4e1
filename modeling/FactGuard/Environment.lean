/-!
# Environment — the variables of the environment

A variable is set to bytes. Most often they are a text; whoever asks for the text of a variable takes other
bytes for nothing, but the variable is set all the same.
-/

namespace FactGuard

/-- What a variable is set to. -/
inductive Variable
  | unset
  | text (content : String)
  /-- Bytes that are not a text. -/
  | bytes
  deriving DecidableEq, Repr

namespace Variable

/-- The text that a variable is set to. -/
def text? : Variable → Option String
  | text content => some content
  | _ => none

/-- Whether a variable is set, to a text or not. -/
def isSet : Variable → Bool
  | unset => false
  | _ => true

/-- A variable that is set to a text, if it is set. -/
def ofText? : Option String → Variable
  | none => unset
  | some content => text content

instance : Coe (Option String) Variable := ⟨ofText?⟩

@[simp]
theorem ofText?_eq_text_iff {content? : Option String} {content : String} :
    ofText? content? = text content ↔ content? = some content := by
  cases content? <;> simp [ofText?]

/-- A variable that is given by its text, or by none, never holds anything else. -/
@[simp]
theorem ofText?_ne_bytes (content? : Option String) : ofText? content? ≠ bytes := by
  cases content? <;> simp [ofText?]

@[simp]
theorem text?_ofText? (content? : Option String) : (ofText? content?).text? = content? := by
  cases content? <;> rfl

/-- Bytes that are no text still set a variable. -/
@[simp]
theorem isSet_eq_false_iff {v : Variable} : v.isSet = false ↔ v = unset := by
  cases v <;> simp [isSet]

end Variable

/-- The variables by their names. -/
abbrev Environment := String → Variable

namespace Environment

/-- The text that a variable is set to. -/
def text? (environment : Environment) (name : String) : Option String := (environment name).text?

/-- Variables that are set to the given texts, and no others. -/
def ofTexts (texts : List (String × String)) : Environment := fun name => texts.lookup name

@[simp]
theorem text?_ofTexts (texts : List (String × String)) (name : String) :
    (ofTexts texts).text? name = texts.lookup name := Variable.text?_ofText? _

/-- The variables in the block of bytes that a program is started with. Entries end with a zero, and the
first entry of a name counts. -/
def ofBlock (block : ByteArray) : Environment := fun name =>
  let front := (name ++ "=").toUTF8.toList
  match (block.toList.splitOn 0).find? fun entry => front.isPrefixOf entry with
  | some entry =>
    if name = "" then .unset
    else match String.fromUTF8? ⟨(entry.drop front.length).toArray⟩ with
      | some content => .text content
      | none => .bytes
  | none => .unset

end Environment

end FactGuard
