import TagOrganizer.Text.Spread

/-!
# Blank characters

The characters that count as blank space, and texts without the blanks at their ends.
-/

namespace TagOrganizer

namespace Text

/--
Where the white space of Unicode begins and ends: the ASCII blanks, the no-break spaces and the
typographic spaces.
-/
def blankBounds : List Nat :=
  [0x09, 0x0E, 0x20, 0x21, 0x85, 0x86, 0xA0, 0xA1, 0x1680, 0x1681, 0x2000, 0x200B, 0x2028, 0x202A,
   0x202F, 0x2030, 0x205F, 0x2060, 0x3000, 0x3001]

/-- Whether a character is white space. -/
def isBlank (char : Char) : Bool :=
  spreadHolds blankBounds char.toNat

/-- A text without the blanks at its two ends. -/
def trimChars (text : List Char) : List Char :=
  ((text.dropWhile isBlank).reverse.dropWhile isBlank).reverse

/-- A string without the blanks at its two ends. -/
def trim (text : String) : String :=
  String.ofList (trimChars text.toList)

end Text

end TagOrganizer
