import FactGuard.Toml.Scan
import FactGuard.Toml.Table

/-!
# Toml/Reader — reading TOML documents

A document is read line by line: headers open tables, and every other line enters a value under a key of
the table that was opened last.
-/

namespace FactGuard.Toml

namespace Scan

/-- Takes the items of an array up to its bracket, each by `one`; `fuel` bounds the rounds of its loops.
Blanks before the next item are taken already. -/
def items (one : Scan Value) (fuel : Nat) (taken : List Value) : Nat → Scan Value
  | 0 => fail
  | rounds + 1 => do
    if ← literal? [']'] then return .array taken.reverse
    let item ← one
    spaces fuel
    if ← literal? [','] then
      spaces fuel
      items one fuel (item :: taken) rounds
    else
      literal [']']
      return .array (item :: taken).reverse

/-- Takes the entries of a table in braces up to its brace, the value of each by `one`. -/
def entries (one : Scan Value) (fuel : Nat) (taken : List (String × Item)) : Nat → Scan Value
  | 0 => fail
  | rounds + 1 => do
    let (path, name) ← key [] fuel
    literal ['=']
    blanks
    let content ← one
    blanks
    let taken ← Item.enter path name content taken
    if ← literal? [','] then entries one fuel taken rounds
    else
      literal ['\x7d']
      return .table (Item.finishEntries taken)

/-- Takes a value; `depth` bounds its nesting. -/
def value (fuel : Nat) : Nat → Scan Value
  | 0 => throw .tooDeep
  | depth + 1 => do
    match ← peek? with
    | some '"' | some '\'' => return .text (← text)
    | some '[' =>
      if depth = 0 then throw .tooDeep
      let _ ← next?
      spaces fuel
      items (value fuel depth) fuel [] fuel
    | some '\x7b' =>
      if depth = 0 then throw .tooDeep
      let _ ← next?
      blanks
      if ← literal? ['\x7d'] then return .table []
      entries (value fuel depth) fuel [] fuel
    | some 't' =>
      literal ['t', 'r', 'u', 'e']
      return .boolean true
    | some 'f' =>
      literal ['f', 'a', 'l', 's', 'e']
      return .boolean false
    | some _ =>
      if ← datetime? then return .datetime else number
    | none => fail

end Scan

/-- What has been read of a document: its tables, and the path of the table that was opened last. -/
structure Reader where
  root : List (String × Item) := []
  current : List String := []

namespace Reader

open Scan

/-- Takes a header, its first bracket included, and opens its table. -/
def header (reader : Reader) (fuel : Nat) : Scan Reader := do
  if ← literal? ['[', '['] then
    let (path, name) ← key [] fuel
    literal [']', ']']
    restOfLine
    return ⟨← Item.openNext path name reader.root, path ++ [name]⟩
  else
    literal ['[']
    let (path, name) ← key [] fuel
    literal [']']
    restOfLine
    return ⟨← Item.openTable path name reader.root, path ++ [name]⟩

/-- Takes a key and its value, and enters them. -/
def entry (reader : Reader) (fuel : Nat) : Scan Reader := do
  let (path, name) ← key [] fuel
  literal ['=']
  blanks
  let content ← value fuel depthLimit
  restOfLine
  let root ← Item.atPath false (fun _ table => Item.enter path name content table) reader.current
    false reader.root
  return { reader with root }

/-- Takes lines up to the end of the text. -/
def lines (reader : Reader) (fuel : Nat) : Nat → Scan Reader
  | 0 => fail
  | rounds + 1 => do
    blanks
    match ← peek? with
    | none => return reader
    | some '[' => lines (← reader.header fuel) fuel rounds
    | some '#' | some '\n' | some '\r' =>
      restOfLine
      lines reader fuel rounds
    | some _ => lines (← reader.entry fuel) fuel rounds

end Reader

/-- Reads the table of a TOML document. A mark at its front that tells the order of bytes does not count. -/
def ofString (text : String) : Except Fault Value := do
  let chars := match text.toList with
    | '\uFEFF' :: rest => rest
    | chars => chars
  let fuel := chars.length + 1
  let (reader, _) ← (Reader.lines {} fuel fuel).run chars
  return .table (Item.finishEntries reader.root)

end FactGuard.Toml
