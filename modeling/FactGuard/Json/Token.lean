import FactGuard.Json.Draft

/-!
# Json/Token — the words of a document text

`Token.ofChars` cuts a text into brackets, separators and scalars and drops the blanks between them.
A scalar that is spelled wrongly is still a token, and the last one: nothing after it is looked at.
-/

namespace FactGuard.Json

/-- A word of a document text. -/
inductive Token
  | openList
  | closeList
  | openObject
  | closeObject
  | comma
  | colon
  | text (spelling : Spelling String)
  | scalar (value : Draft)
  /-- A character that starts no token. -/
  | stray

namespace Token

/-! ## Texts -/

/-- The value of a hexadecimal digit. -/
def hexValue? (c : Char) : Option Nat :=
  if '0' ≤ c ∧ c ≤ '9' then some (c.toNat - '0'.toNat)
  else if 'a' ≤ c ∧ c ≤ 'f' then some (c.toNat - 'a'.toNat + 10)
  else if 'A' ≤ c ∧ c ≤ 'F' then some (c.toNat - 'A'.toNat + 10)
  else none

/-- The code unit of four hexadecimal digits. -/
def codeUnit? (a b c d : Char) : Option Nat := do
  return (((← hexValue? a) * 16 + (← hexValue? b)) * 16 + (← hexValue? c)) * 16 + (← hexValue? d)

/-- Code units that open a surrogate pair. -/
def isLeading (unit : Nat) : Bool := 0xD800 ≤ unit && unit ≤ 0xDBFF

/-- Code units that close a surrogate pair. -/
def isTrailing (unit : Nat) : Bool := 0xDC00 ≤ unit && unit ≤ 0xDFFF

/-- The character of a surrogate pair. -/
def ofPair (leading trailing : Nat) : Char :=
  Char.ofNat ((leading - 0xD800) * 0x400 + (trailing - 0xDC00) + 0x10000)

/-- The fault of a `\u` with fewer than four characters after it: the text ends, unless what is left
still fills four bytes. -/
def shortEscape (left : List Char) : Fault :=
  if (String.ofList left).utf8ByteSize < 4 then .endInText else .badEscape

/-- The fault of a leading surrogate, by what follows it; nothing if a trailing one does. -/
def pairFault? : List Char → Option Fault
  | [] => some .endInText
  | ['\\'] => some .endInText
  | '\\' :: 'u' :: a :: b :: c :: d :: _ =>
    match codeUnit? a b c d with
    | none => some .badEscape
    | some unit => if isTrailing unit then none else some .loneSurrogate
  | '\\' :: 'u' :: left => some (shortEscape left)
  | _ => some .unfinishedEscape

/-- The character a one-letter escape stands for. -/
def escaped? : Char → Option Char
  | '"' => some '"'
  | '\\' => some '\\'
  | '/' => some '/'
  | 'b' => some '\x08'
  | 'f' => some '\x0c'
  | 'n' => some '\n'
  | 'r' => some '\r'
  | 't' => some '\t'
  | _ => none

/-- A text whose spelling breaks off. -/
def brokenText (earlier : Option Fault) (fault : Fault) : Spelling String × List Char :=
  (⟨.error (earlier.getD fault), some fault⟩, [])

/-- Takes a text up to its closing quote. `earlier` is a fault already met that skipping overlooks. -/
def takeText : List Char → List Char → Option Fault → Spelling String × List Char
  | [], _, earlier => brokenText earlier .endInText
  | '"' :: rest, taken, none => (⟨.ok (String.ofList taken.reverse), none⟩, rest)
  | '"' :: rest, _, some fault => (⟨.error fault, none⟩, rest)
  | '\\' :: 'u' :: a :: b :: c :: d :: rest, taken, earlier =>
    match codeUnit? a b c d with
    | none => brokenText earlier .badEscape
    | some unit =>
      if isTrailing unit then takeText rest taken (earlier <|> some .loneSurrogate)
      else if isLeading unit then
        match pairFault? rest, rest with
        | none, '\\' :: 'u' :: e :: f :: g :: h :: rest =>
          takeText rest (ofPair unit ((codeUnit? e f g h).getD 0) :: taken) earlier
        | fault, rest => takeText rest taken (earlier <|> fault)
      else takeText rest (Char.ofNat unit :: taken) earlier
  | '\\' :: 'u' :: left, _, earlier => brokenText earlier (shortEscape left)
  | ['\\'], _, earlier => brokenText earlier .endInText
  | '\\' :: c :: rest, taken, earlier =>
    match escaped? c with
    | some c => takeText rest (c :: taken) earlier
    | none => brokenText earlier .badEscape
  | c :: rest, taken, earlier =>
    if c.toNat < 0x20 then brokenText earlier .controlCharacter
    else takeText rest (c :: taken) earlier
termination_by cs => cs.length

/-- Scanning a text never gives characters back; the same holds of each scanner below. -/
theorem length_takeText_le (cs taken : List Char) (earlier : Option Fault) :
    (takeText cs taken earlier).2.length ≤ cs.length := by
  fun_induction takeText cs taken earlier <;> simp_all [brokenText] <;> omega

/-! ## Numbers and words -/

/-- The digits at the front of a text, as numbers, and what follows them. -/
def takeDigits (cs : List Char) : List Nat × List Char :=
  ((cs.takeWhile Char.isDigit).map fun c => c.toNat - '0'.toNat, cs.dropWhile Char.isDigit)

/-- A number that breaks off before `left`: where the text ends, or else a wrong spelling. -/
def brokenNumber (left : List Char) : Spelling Number :=
  ⟨.error (if left.isEmpty then .endInValue else .badNumber), some .badNumber⟩

/-- A number with all its parts. -/
def wholeNumber (literal : Decimal.Literal) : Spelling Number :=
  ⟨match literal.value? with
    | some value => .ok value
    | none => .error .numberOutOfRange, none⟩

/-- Takes a sign, if there is one; `true` is minus. -/
def takeSign : List Char → Bool × List Char
  | '-' :: cs => (true, cs)
  | '+' :: cs => (false, cs)
  | cs => (false, cs)

/-- Takes the exponent of a number, if there is one. -/
def takeExponent (literal : Decimal.Literal) (cs : List Char) : Spelling Number × List Char :=
  match cs with
  | c :: rest =>
    if c = 'e' ∨ c = 'E' then
      let sign := takeSign rest
      let digits := takeDigits sign.2
      if digits.1 = [] then (brokenNumber sign.2, [])
      else (wholeNumber { literal with exponent := some (sign.1, digits.1) }, digits.2)
    else (wholeNumber literal, cs)
  | [] => (wholeNumber literal, [])

/-- Takes a number; its sign is taken already. No digit may follow a leading zero. -/
def takeNumber (negative : Bool) (cs : List Char) : Spelling Number × List Char :=
  let whole := takeDigits cs
  if whole.1 = [] then (brokenNumber cs, [])
  else if whole.1.head? = some 0 ∧ whole.1.length ≠ 1 then
    (⟨.error .badNumber, some .badNumber⟩, [])
  else match whole.2 with
    | '.' :: left =>
      let fraction := takeDigits left
      if fraction.1 = [] then (brokenNumber left, [])
      else takeExponent ⟨negative, whole.1, some fraction.1, none⟩ fraction.2
    | rest => takeExponent ⟨negative, whole.1, none, none⟩ rest

/-- Takes the remaining letters of a word, and the fault if they are not there. -/
def takeWord : List Char → List Char → Option Fault × List Char
  | [], cs => (none, cs)
  | _ :: _, [] => (some .endInValue, [])
  | letter :: letters, c :: cs =>
    if c = letter then takeWord letters cs else (some .expectedWord, [])

theorem length_takeDigits_le (cs : List Char) : (takeDigits cs).2.length ≤ cs.length :=
  (List.dropWhile_sublist _).length_le

theorem length_takeSign_le (cs : List Char) : (takeSign cs).2.length ≤ cs.length := by
  unfold takeSign
  split <;> simp

theorem length_takeExponent_le (literal : Decimal.Literal) (cs : List Char) :
    (takeExponent literal cs).2.length ≤ cs.length := by
  unfold takeExponent
  split
  · next c rest =>
    have h := Nat.le_trans (length_takeDigits_le (takeSign rest).2) (length_takeSign_le rest)
    dsimp only
    split
    · split
      · simp
      · exact Nat.le_succ_of_le h
    · simp
  · simp

/-- What follows a number starts no earlier than what follows its first digits. -/
theorem length_takeNumber_le (negative : Bool) (cs : List Char) :
    (takeNumber negative cs).2.length ≤ (takeDigits cs).2.length := by
  unfold takeNumber
  dsimp only
  split
  · simp
  · split
    · simp
    · split
      · next left heq =>
        split
        · simp
        · rw [heq]
          exact Nat.le_succ_of_le
            (Nat.le_trans (length_takeExponent_le _ _) (length_takeDigits_le left))
      · exact length_takeExponent_le _ _

theorem length_takeDigits_cons {c : Char} (h : c.isDigit) (cs : List Char) :
    (takeDigits (c :: cs)).2.length ≤ cs.length := by
  simpa [takeDigits, List.dropWhile_cons, h] using length_takeDigits_le cs

theorem length_takeWord_le (letters cs : List Char) :
    (takeWord letters cs).2.length ≤ cs.length := by
  fun_induction takeWord letters cs <;> simp_all
  omega

/-! ## Cutting a text -/

/-- The blanks between the words of a document. -/
def isBlank (c : Char) : Bool := c = ' ' || c = '\n' || c = '\t' || c = '\r'

/-- The tokens that stand for themselves. -/
def punctuation? : Char → Option Token
  | '[' => some openList
  | ']' => some closeList
  | '\x7b' => some openObject
  | '\x7d' => some closeObject
  | ',' => some comma
  | ':' => some colon
  | _ => none

/-- Takes the scalar that starts with `c`. -/
def takeScalar (c : Char) (cs : List Char) : Token × List Char :=
  if c = '"' then
    let taken := takeText cs [] none
    (.text taken.1, taken.2)
  else if c = 'n' then
    let taken := takeWord ['u', 'l', 'l'] cs
    (.scalar (.null taken.1), taken.2)
  else if c = 't' then
    let taken := takeWord ['r', 'u', 'e'] cs
    (.scalar (.bool true taken.1), taken.2)
  else if c = 'f' then
    let taken := takeWord ['a', 'l', 's', 'e'] cs
    (.scalar (.bool false taken.1), taken.2)
  else if c = '-' then
    let taken := takeNumber true cs
    (.scalar (.number taken.1), taken.2)
  else if c.isDigit then
    let taken := takeNumber false (c :: cs)
    (.scalar (.number taken.1), taken.2)
  else (.stray, [])

/-- A scalar takes at least its first character. -/
theorem length_takeScalar_le (c : Char) (cs : List Char) :
    (takeScalar c cs).2.length ≤ cs.length := by
  unfold takeScalar
  dsimp only
  split
  · exact length_takeText_le _ _ _
  · split
    · exact length_takeWord_le _ _
    · split
      · exact length_takeWord_le _ _
      · split
        · exact length_takeWord_le _ _
        · split
          · exact Nat.le_trans (length_takeNumber_le _ _) (length_takeDigits_le _)
          · split
            · next h => exact Nat.le_trans (length_takeNumber_le _ _) (length_takeDigits_cons h _)
            · simp

/-- The words of a text. -/
def ofChars : List Char → List Token
  | [] => []
  | c :: cs =>
    if isBlank c then ofChars cs
    else match punctuation? c with
      | some token => token :: ofChars cs
      | none =>
        have := length_takeScalar_le c cs
        (takeScalar c cs).1 :: ofChars (takeScalar c cs).2
termination_by cs => cs.length

end Token

end FactGuard.Json
