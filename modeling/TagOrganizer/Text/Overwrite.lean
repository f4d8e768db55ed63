/-!
# Writing into a text

A text is written into another one from a byte on. What lies before that byte and what lies behind
the new text stays; of a character that is hit only in part nothing stays. A gap between the end of
the old text and the byte is filled with NUL.
-/

namespace TagOrganizer

namespace Text

/-- The characters of a text that end within the first `count` bytes. -/
def firstBytes : (count : Nat) → (text : List Char) → List Char
  | _, [] => []
  | count, char :: text =>
      if char.utf8Size ≤ count then char :: firstBytes (count - char.utf8Size) text else []

/-- The characters of a text that begin after the first `count` bytes. -/
def afterBytes : (count : Nat) → (text : List Char) → List Char
  | _, [] => []
  | 0, text => text
  | count + 1, char :: text => afterBytes (count + 1 - char.utf8Size) text

/-- Writes a text into another one, from the byte at `position` on. -/
def overwrite (position : Nat) (text content : String) : String :=
  let before := String.ofList (firstBytes position content.toList)
  let gap := String.ofList (List.replicate (position - before.utf8ByteSize) '\x00')
  let after := afterBytes (position + text.utf8ByteSize) content.toList
  before ++ gap ++ text ++ String.ofList after

end Text

end TagOrganizer
