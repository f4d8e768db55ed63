import TagOrganizer.Regex.Alphabet
import TagOrganizer.Text.Blank

/-!
# Sets of characters

The sets of characters that regular expressions describe. A set is given by its bounds, so that sets
with the same characters are equal.
-/

namespace TagOrganizer

namespace Regex

/-- A set of characters: the codes, in ascending order, at which it begins and ends. -/
structure CharSet where
  bounds : List Nat
  deriving DecidableEq

namespace CharSet

/-- Whether a character is in a set. -/
def has (set : CharSet) (char : Char) : Bool :=
  Text.spreadHolds set.bounds char.toNat

/-- No character. -/
def none : CharSet := ⟨[]⟩

/-- All characters. -/
def any : CharSet := ⟨[0, 0xD800, 0xE000, 0x110000]⟩

/-- One character. -/
def single (char : Char) : CharSet :=
  ⟨[char.toNat, char.toNat + 1]⟩

/-- The characters of words. -/
def word : CharSet := ⟨wordBounds⟩

/-- The decimal digits. -/
def digit : CharSet := ⟨digitBounds⟩

/-- The blanks. -/
def space : CharSet := ⟨Text.blankBounds⟩

/-- The characters of one set or of the other. -/
def union (left right : CharSet) : CharSet :=
  ⟨Text.combine or left.bounds right.bounds⟩

/-- The characters of both sets. -/
def intersection (left right : CharSet) : CharSet :=
  ⟨Text.combine and left.bounds right.bounds⟩

/-- The characters of one set that are not in the other. -/
def difference (left right : CharSet) : CharSet :=
  ⟨Text.combine (fun inLeft inRight => inLeft && !inRight) left.bounds right.bounds⟩

/-- The characters of exactly one of two sets. -/
def symmetric (left right : CharSet) : CharSet :=
  ⟨Text.combine xor left.bounds right.bounds⟩

/-- The characters that are not in a set. -/
def complement (set : CharSet) : CharSet :=
  difference any set

/-- The characters from one to another. -/
def range (low high : Char) : CharSet :=
  intersection any ⟨[low.toNat, high.toNat + 1]⟩

/-- The union of a list of sets. -/
def unionAll (sets : List CharSet) : CharSet :=
  sets.foldr union none

/-- The characters of a list of ranges. -/
def ofRanges (ranges : List (Char × Char)) : CharSet :=
  unionAll (ranges.map fun bounds => range bounds.1 bounds.2)

/-- The characters with the given codes. -/
def ofCodes (codes : List Nat) : CharSet :=
  unionAll (codes.map fun code => ⟨[code, code + 1]⟩)

/-- The codes at which a set begins, each with the last code before the set ends again. -/
def ranges (set : CharSet) : List (Nat × Nat) :=
  go set.bounds
where
  /-- The ranges between bounds. -/
  go : List Nat → List (Nat × Nat)
    | low :: high :: bounds => (low, high - 1) :: go bounds
    | _ => []

/-- The only character of a set. -/
def only? (set : CharSet) : Option Char :=
  match set.bounds with
  | [low, high] => if high = low + 1 then some (Char.ofNat low) else Option.none
  | _ => Option.none

/-- Whether a set has no characters. -/
def isEmpty (set : CharSet) : Bool :=
  set.bounds.isEmpty

/-- Adds the partners of the characters of a set, where `pairs` are codes and their folded forms. -/
def closeUnder (pairs : List (Nat × Nat)) (set : CharSet) : CharSet :=
  let holds := Text.spreadHolds set.bounds
  let folded := ofCodes (pairs.filterMap fun pair =>
    if holds pair.1 || holds pair.2 then some pair.2 else Option.none)
  let unfolded := ofCodes (pairs.filterMap fun pair =>
    if Text.spreadHolds folded.bounds pair.2 then some pair.1 else Option.none)
  union set (union folded unfolded)

/-- All characters that differ from one of a set only in case. -/
def anyCase (set : CharSet) : CharSet :=
  closeUnder foldPairs set

/-- As `anyCase`, for the letters from `a` to `z` only. -/
def anyPlainCase (set : CharSet) : CharSet :=
  closeUnder ((List.range 26).map fun letter => (0x41 + letter, 0x61 + letter)) set

/-- The lower and upper case letters from `a` to `z`. -/
def plainLetters : List (Char × Char) := [('A', 'Z'), ('a', 'z')]

/-- The sets that have a name inside brackets. All of them hold plain characters only. -/
def named? (name : String) : Option CharSet :=
  match name with
  | "alnum" => some (ofRanges (('0', '9') :: plainLetters))
  | "alpha" => some (ofRanges plainLetters)
  | "ascii" => some (ofRanges [('\x00', '\x7f')])
  | "blank" => some (ofRanges [('\t', '\t'), (' ', ' ')])
  | "cntrl" => some (ofRanges [('\x00', '\x1f'), ('\x7f', '\x7f')])
  | "digit" => some (ofRanges [('0', '9')])
  | "graph" => some (ofRanges [('!', '~')])
  | "lower" => some (ofRanges [('a', 'z')])
  | "print" => some (ofRanges [(' ', '~')])
  | "punct" => some (ofRanges [('!', '/'), (':', '@'), ('[', '\x60'), ('\x7b', '~')])
  | "space" => some (ofRanges [('\t', '\r'), (' ', ' ')])
  | "upper" => some (ofRanges [('A', 'Z')])
  | "word" => some (ofRanges (('0', '9') :: ('_', '_') :: plainLetters))
  | "xdigit" => some (ofRanges [('0', '9'), ('A', 'F'), ('a', 'f')])
  | _ => Option.none

end CharSet

end Regex

end TagOrganizer
