import TagOrganizer.Regex.CharSet

/-!
# Regular expressions

Regular expressions as trees, the places of a text, and the conditions that an expression may put on
a place.
-/

namespace TagOrganizer

/-- Conditions on a place between characters. -/
inductive Regex.Look where
  | textStart
  | textEnd
  | lineStart
  | lineEnd
  /-- As `lineStart`, for lines that end in a carriage return, a line feed or both. -/
  | anyLineStart
  /-- As `lineEnd`, for lines that end in a carriage return, a line feed or both. -/
  | anyLineEnd
  /-- Exactly one neighbour is a character of words. -/
  | wordEdge (isWord : Regex.CharSet)
  | noWordEdge (isWord : Regex.CharSet)
  | wordStart (isWord : Regex.CharSet)
  | wordEnd (isWord : Regex.CharSet)
  | noWordBefore (isWord : Regex.CharSet)
  | noWordAfter (isWord : Regex.CharSet)
  deriving DecidableEq

/-- A regular expression. -/
inductive Regex where
  /-- Matches the empty text. -/
  | empty
  /-- Matches one character of a set. -/
  | one (set : Regex.CharSet)
  /-- Matches the empty text where a condition holds. -/
  | look (look : Regex.Look)
  | concat (first second : Regex)
  /-- Matches as `first`, or else as `second`. -/
  | alternate (first second : Regex)
  /-- Matches from `least` to `most` times in a row, as often as possible if `greedy`. -/
  | repetition (body : Regex) (least : Nat) (most : Option Nat) (greedy : Bool)
  /-- The group with a number; one that has a name remembers what `body` matches. -/
  | group (number : Nat) (name : Option String) (body : Regex)
  deriving DecidableEq

namespace Regex

/-- A place in a text: how many characters are before it, the last of them, and what follows. -/
structure Place where
  position : Nat
  previous : Option Char
  rest : List Char

namespace Place

/-- The place before a text. -/
def start (text : List Char) : Place :=
  ⟨0, none, text⟩

/-- The characters between two places of a text. -/
def upTo (place later : Place) : List Char :=
  place.rest.take (later.position - place.position)

/-- The place after the next character. -/
def next? (place : Place) : Option Place :=
  match place.rest with
  | [] => none
  | char :: rest => some ⟨place.position + 1, some char, rest⟩

end Place

/-- Whether a condition holds at a place. -/
def Look.holds (look : Look) (place : Place) : Bool :=
  let before := place.previous
  let after := place.rest.head?
  match look with
  | .textStart => before.isNone
  | .textEnd => after.isNone
  | .lineStart => before.isNone || before == some '\n'
  | .lineEnd => after.isNone || after == some '\n'
  | .anyLineStart =>
      before.isNone || before == some '\n' || (before == some '\r' && after != some '\n')
  | .anyLineEnd =>
      after.isNone || after == some '\r' || (after == some '\n' && before != some '\r')
  | .wordEdge isWord => before.any isWord.has != after.any isWord.has
  | .noWordEdge isWord => before.any isWord.has == after.any isWord.has
  | .wordStart isWord => !before.any isWord.has && after.any isWord.has
  | .wordEnd isWord => before.any isWord.has && !after.any isWord.has
  | .noWordBefore isWord => !before.any isWord.has
  | .noWordAfter isWord => !after.any isWord.has

end Regex

end TagOrganizer
