/-!
# Text/Blank — blank characters, trimming, and ASCII case

The blanks are the characters of Unicode's `White_Space` property. Names, settings and environment
values are compared after their outer blanks are removed.
-/

namespace FactGuard.Text

/-- The `White_Space` property, as ranges of code points. -/
def blankRanges : List (Nat × Nat) :=
  [(0x09, 0x0D), (0x20, 0x20), (0x85, 0x85), (0xA0, 0xA0), (0x1680, 0x1680), (0x2000, 0x200A),
   (0x2028, 0x2029), (0x202F, 0x202F), (0x205F, 0x205F), (0x3000, 0x3000)]

/-- Whether a character is blank. -/
def isBlank (c : Char) : Bool := blankRanges.any fun (first, last) => first ≤ c.toNat && c.toNat ≤ last

/-- Removes the blanks on both sides. -/
def trimmedChars (cs : List Char) : List Char :=
  ((cs.dropWhile isBlank).reverse.dropWhile isBlank).reverse

/-- Removes the blanks on both sides. -/
def trimmed (s : String) : String := String.ofList (trimmedChars s.toList)

/-- Whether a text holds nothing but blanks. -/
def isAllBlank (s : String) : Bool := s.toList.all isBlank

/-- Lower case for the letters A to Z; every other character stays. -/
def asciiLower (s : String) : String := String.ofList (s.toList.map Char.toLower)

end FactGuard.Text
