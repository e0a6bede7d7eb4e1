import FactGuard.Toml.Basic

/-!
# Toml/Scan — keys and scalars of TOML documents

A scan takes something off the front of a text, or fails with a fault. Loops are bounded by the length of
the text, since every round takes at least one character.
-/

namespace FactGuard.Toml

/-- Takes something off the front of a text. -/
abbrev Scan := StateT (List Char) (Except Fault)

namespace Scan

/-- Fails. -/
def fail : Scan α := throw .malformed

/-- The next character, which stays. -/
def peek? : Scan (Option Char) := do return (← get).head?

/-- Takes the next character, if there is one. -/
def next? : Scan (Option Char) := do
  match ← get with
  | [] => return none
  | c :: rest =>
    set rest
    return some c

/-- Takes a text that must come next. -/
def literal (expected : List Char) : Scan Unit := do
  let text ← get
  if expected.isPrefixOf text then set (text.drop expected.length) else fail

/-- Takes a text if it comes next. -/
def literal? (expected : List Char) : Scan Bool := do
  let text ← get
  if expected.isPrefixOf text then
    set (text.drop expected.length)
    return true
  return false

/-- Takes characters of a class. -/
def takeWhile (p : Char → Bool) : Scan (List Char) := do
  let text ← get
  set (text.dropWhile p)
  return text.takeWhile p

/-! ## Blanks and comments -/

/-- Takes blanks and tabs. -/
def blanks : Scan Unit := do
  let _ ← takeWhile fun c => c = ' ' || c = '\t'

/-- Whether a character may stand in a comment, and in a literal text. -/
def isPlain (c : Char) : Bool := c = '\t' || (0x20 ≤ c.toNat && c.toNat ≤ 0x7E) || 0x80 ≤ c.toNat

/-- Takes a comment, if there is one, up to the end of its line. -/
def comment : Scan Unit := do
  if ← literal? ['#'] then
    let _ ← takeWhile isPlain

/-- Takes the end of a line, if it comes next. -/
def lineEnd? : Scan Bool := do
  if ← literal? ['\n'] then return true
  literal? ['\r', '\n']

/-- Takes the rest of a line that holds nothing more. -/
def restOfLine : Scan Unit := do
  blanks
  comment
  if !(← lineEnd?) && (← peek?).isSome then fail

/-- Takes blanks, comments and ends of lines. -/
def spaces : Nat → Scan Unit
  | 0 => return ()
  | fuel + 1 => do
    blanks
    if (← peek?) = some '#' then
      comment
      if !(← lineEnd?) then fail
      spaces fuel
    else if ← lineEnd? then spaces fuel

/-! ## Texts -/

/-- The value of a hexadecimal digit. -/
def hexDigit? (c : Char) : Option Nat :=
  if c.isDigit then some (c.toNat - '0'.toNat)
  else if 'a' ≤ c ∧ c ≤ 'f' then some (c.toNat - 'a'.toNat + 10)
  else if 'A' ≤ c ∧ c ≤ 'F' then some (c.toNat - 'A'.toNat + 10)
  else none

/-- The character of a given number of hexadecimal digits. -/
def numberedChar (digits : Nat) : Scan Char := do
  let text ← get
  match (text.take digits).mapM hexDigit? with
  | none => fail
  | some values =>
    let n := values.foldl (fun n d => n * 16 + d) 0
    if values.length = digits ∧ n.isValidChar then
      set (text.drop digits)
      return Char.ofNat n
    else fail

/-- Takes what follows a backslash. -/
def escape : Scan Char := do
  match ← next? with
  | some 'b' => return '\x08'
  | some 't' => return '\t'
  | some 'n' => return '\n'
  | some 'f' => return '\x0c'
  | some 'r' => return '\r'
  | some '"' => return '"'
  | some '\\' => return '\\'
  | some 'u' => numberedChar 4
  | some 'U' => numberedChar 8
  | _ => fail

/-- Takes a text in double quotes up to its closing quote. -/
def basicText (taken : List Char) : Nat → Scan String
  | 0 => fail
  | fuel + 1 => do
    match ← next? with
    | some '"' => return String.ofList taken.reverse
    | some '\\' => basicText ((← escape) :: taken) fuel
    | some c => if isPlain c then basicText (c :: taken) fuel else fail
    | none => fail

/-- Takes a text in single quotes up to its closing quote. -/
def literalText : Scan String := do
  let taken ← takeWhile fun c => isPlain c && c ≠ '\''
  literal ['\'']
  return String.ofList taken

/-- Takes the blanks and ends of lines off the front of a text. -/
def dropLines : List Char → List Char
  | ' ' :: rest => dropLines rest
  | '\t' :: rest => dropLines rest
  | '\n' :: rest => dropLines rest
  | '\r' :: '\n' :: rest => dropLines rest
  | text => text

/-- Whether nothing but blanks stands before the end of the line. -/
def endsLine (text : List Char) : Bool :=
  match text.dropWhile fun c => c = ' ' || c = '\t' with
  | '\n' :: _ => true
  | '\r' :: '\n' :: _ => true
  | _ => false

/-- Takes a text of several lines up to its closing quotes; one or two quotes more belong to the text.
`quote` is what the text is quoted by; only in double quotes is there anything to escape, and a
backslash at the end of a line takes away everything up to the next character. -/
def longText (quote : Char) (taken : List Char) : Nat → Scan String
  | 0 => fail
  | fuel + 1 => do
    if ← lineEnd? then longText quote ('\n' :: taken) fuel
    else if (← peek?) = some quote then
      let quotes ← takeWhile (· = quote)
      if quotes.length < 3 then longText quote (quotes ++ taken) fuel
      else if 5 < quotes.length then fail
      else return String.ofList (List.replicate (quotes.length - 3) quote ++ taken).reverse
    else match ← next? with
      | none => fail
      | some c =>
        if c = '\\' && quote = '"' then
          let rest ← get
          if endsLine rest then
            set (dropLines rest)
            longText quote taken fuel
          else longText quote ((← escape) :: taken) fuel
        else if isPlain c then longText quote (c :: taken) fuel
        else fail

/-- Takes a text of any kind. -/
def text : Scan String := do
  let fuel := (← get).length + 1
  if ← literal? ['"', '"', '"'] then
    let _ ← lineEnd?
    longText '"' [] fuel
  else if ← literal? ['\'', '\'', '\''] then
    let _ ← lineEnd?
    longText '\'' [] fuel
  else if ← literal? ['"'] then basicText [] fuel
  else do
    literal ['\'']
    literalText

/-! ## Keys -/

/-- Whether a character may stand in a key without quotes. -/
def isBare (c : Char) : Bool := c.isAlphanum || c = '-' || c = '_'

/-- Takes one segment of a key. -/
def segment : Scan String := do
  let fuel := (← get).length + 1
  if ← literal? ['"'] then basicText [] fuel
  else if ← literal? ['\''] then literalText
  else
    let name ← takeWhile isBare
    if name = [] then fail
    return String.ofList name

/-- The number of segments from which on a key is too long, and the nesting from which on a value is too
deep. -/
def depthLimit : Nat := 80

/-- Takes a key with dots: its path, and its last segment. -/
def key (path : List String) : Nat → Scan (List String × String)
  | 0 => fail
  | fuel + 1 => do
    blanks
    let name ← segment
    blanks
    if ← literal? ['.'] then key (path ++ [name]) fuel
    else if depthLimit ≤ path.length + 1 then throw .tooDeep
    else return (path, name)

/-! ## Numbers -/

/-- Takes digits of a class with single underscores between them. -/
def digits (p : Char → Bool) : Scan (List Char) := do
  let taken ← takeWhile fun c => p c || c = '_'
  if taken.head? = some '_' ∨ taken.getLast? = some '_' ∨ hasPair taken then fail
  return taken.filter (· ≠ '_')
where
  /-- Whether two underscores stand side by side. -/
  hasPair : List Char → Bool
    | '_' :: '_' :: _ => true
    | _ :: rest => hasPair rest
    | [] => false

/-- Takes a sign, if there is one; `true` is minus. -/
def sign : Scan Bool := do
  if ← literal? ['-'] then return true
  let _ ← literal? ['+']
  return false

/-- The value of digits in a base. -/
def valueOf (base : Nat) (digits : List Char) : Nat :=
  digits.foldl (fun n c => n * base + (hexDigit? c).getD 0) 0

/-- Whole numbers fill 64 bits with sign. -/
def wholeNumber (value : Int) : Scan Value :=
  let bound : Int := Nat.pow 2 63
  if -bound ≤ value ∧ value < bound then return .integer value else fail

/-- Whether `digits · 10^exponent` is rounded to more than the largest double. -/
def overflows (digits : List Char) (exponent : Int) : Bool :=
  let n := valueOf 10 digits
  let size : Int := (Nat.toDigits 10 n).length + exponent
  if n = 0 ∨ size < 300 then false
  else if 320 < size then true
  else
    let bound := Nat.pow 2 1024 - Nat.pow 2 970
    if 0 ≤ exponent then bound ≤ n * Nat.pow 10 exponent.toNat
    else bound * Nat.pow 10 (-exponent).toNat ≤ n

/-- Takes what makes a number one with a fraction or an exponent, if there is any. -/
def fractional (negative : Bool) (whole : List Char) : Scan (Option Value) := do
  let hasPoint ← literal? ['.']
  let fraction ← if hasPoint then digits Char.isDigit else pure []
  if hasPoint && fraction.isEmpty then fail
  let hasExponent ← do
    if ← literal? ['e'] then pure true else literal? ['E']
  if hasExponent then
    let minus ← sign
    let exponent ← digits Char.isDigit
    if exponent.isEmpty then fail
    let size : Int := valueOf 10 exponent
    if !negative && overflows (whole ++ fraction) ((if minus then -size else size) - fraction.length) then
      fail
    return some .float
  else if hasPoint then
    if !negative && overflows (whole ++ fraction) (-fraction.length) then fail
    return some .float
  else return none

/-- Takes a number in base ten. -/
def decimal : Scan Value := do
  let negative ← sign
  if ← literal? ['i', 'n', 'f'] then return .float
  if ← literal? ['n', 'a', 'n'] then return .float
  let whole ← do
    if ← literal? ['0'] then pure ['0'] else digits Char.isDigit
  if whole.isEmpty then fail
  match ← fractional negative whole with
  | some value => return value
  | none =>
    let value := valueOf 10 whole
    wholeNumber (if negative then -value else value)

/-- Takes a whole number in another base. -/
def inBase (base : Nat) (p : Char → Bool) : Scan Value := do
  let taken ← digits p
  if taken.isEmpty then fail
  wholeNumber (valueOf base taken)

/-- Takes a number. -/
def number : Scan Value := do
  if ← literal? ['0', 'x'] then inBase 16 fun c => (hexDigit? c).isSome
  else if ← literal? ['0', 'o'] then inBase 8 fun c => '0' ≤ c && c ≤ '7'
  else if ← literal? ['0', 'b'] then inBase 2 fun c => c = '0' || c = '1'
  else decimal

/-! ## Dates and times -/

/-- Takes a number of a fixed count of digits, within bounds. -/
def fixed (count least greatest : Nat) : Scan Nat := do
  let text ← get
  let taken := text.take count
  if taken.length = count ∧ taken.all Char.isDigit ∧ least ≤ valueOf 10 taken ∧
      valueOf 10 taken ≤ greatest then
    set (text.drop count)
    return valueOf 10 taken
  else fail

/-- The number of days of a month. -/
def daysOf (year month : Nat) : Nat :=
  if month = 2 then
    if year % 4 = 0 ∧ (year % 100 ≠ 0 ∨ year % 400 = 0) then 29 else 28
  else if month = 4 ∨ month = 6 ∨ month = 9 ∨ month = 11 then 30
  else 31

/-- Takes a date. -/
def date : Scan Unit := do
  let year ← fixed 4 0 9999
  literal ['-']
  let month ← fixed 2 1 12
  literal ['-']
  let _ ← fixed 2 1 (daysOf year month)

/-- Takes a time of day. -/
def time : Scan Unit := do
  let _ ← fixed 2 0 23
  literal [':']
  let _ ← fixed 2 0 59
  literal [':']
  let _ ← fixed 2 0 60
  if ← literal? ['.'] then
    let fraction ← takeWhile Char.isDigit
    if fraction = [] then fail

/-- Takes the offset of a time from universal time, if there is one. -/
def offset : Scan Unit := do
  if ← literal? ['Z'] then return ()
  if ← literal? ['z'] then return ()
  match ← peek? with
  | some '+' | some '-' =>
    let _ ← next?
    let _ ← fixed 2 0 23
    literal [':']
    let _ ← fixed 2 0 59
  | _ => return ()

/-- Takes what `scan` takes, or nothing if it fails. -/
def attempt (scan : Scan Unit) : Scan Bool := fun text =>
  match scan.run text with
  | .ok (_, rest) => .ok (true, rest)
  | .error _ => .ok (false, text)

/-- Takes a date, a time, or both, if one comes next. -/
def datetime? : Scan Bool := do
  if ← attempt date then
    let _ ← attempt do
      match ← next? with
      | some 'T' | some 't' | some ' ' =>
        time
        offset
      | _ => fail
    return true
  else attempt time

end Scan

end FactGuard.Toml
