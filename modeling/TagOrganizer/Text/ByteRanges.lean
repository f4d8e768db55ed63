/-!
# Ranges of characters as ranges of bytes

The characters between two characters as sequences of ranges of bytes in UTF-8. A sequence matches
the characters whose bytes lie in its ranges one by one.
-/

namespace TagOrganizer

namespace Text

/-- Cuts the codes from `low` to `high` where bytes change, with the given sizes of blocks. -/
def cutBlocks (low high : Nat) : (sizes : List Nat) → List (Nat × Nat)
  | [] => [(low, high)]
  | size :: sizes =>
      if low / size = high / size then [(low, high)]
      else
        let first := (low + size - 1) / size * size
        let front := if low = first then [] else [(low, first - 1)]
        if first / size = high / size then front ++ [(first, high)]
        else
          let last := (high + 1) / size * size
          let back := if last = high + 1 then [] else [(last, high)]
          front ++ cutBlocks first (last - 1) sizes ++ back

/-- Cuts the codes from `low` to `high` after each of some codes. -/
def cutAfter (low high : Nat) : (ends : List Nat) → List (Nat × Nat)
  | [] => [(low, high)]
  | last :: ends =>
      if high ≤ last then [(low, high)]
      else if last < low then cutAfter low high ends
      else (low, last) :: cutAfter (last + 1) high ends

/-- The bytes of a character in UTF-8. -/
def bytesOf (code : Nat) : List Nat :=
  (String.utf8EncodeChar (Char.ofNat code)).map UInt8.toNat

/-- The characters from `low` to `high`, which take equally many bytes, as sequences of ranges. -/
def sequencesBetween (low high : Nat) : List (List (Nat × Nat)) :=
  if high < 0x80 then [[(low, high)]]
  else
    (cutBlocks low high [0x40, 0x1000, 0x40000]).map fun block =>
      (bytesOf block.1).zip (bytesOf block.2)

/-- The characters from `low` to `high` as sequences of ranges of bytes. -/
def byteSequences (low high : Nat) : List (List (Nat × Nat)) :=
  (cutAfter low high [0x7F, 0x7FF, 0xFFFF]).flatMap fun part => sequencesBetween part.1 part.2

end Text

end TagOrganizer
