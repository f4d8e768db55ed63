import TagOrganizer.Regex.CharSet
import TagOrganizer.Text.Fragment

/-!
# Tables of characters

The tables of the properties of characters, in version 16.0 of Unicode, are rows of text. Some list
the ranges of a set. Others give the values of a property for all codes, from zero on. Names are
looked up in tables without regard to what does not matter in a name.
-/

namespace TagOrganizer

namespace Regex

/-- The value of a hexadecimal digit. -/
def hexValue? (char : Char) : Option Nat :=
  if char.isDigit then some (char.toNat - '0'.toNat)
  else if 'a' ≤ char ∧ char ≤ 'f' then some (char.toNat - 'a'.toNat + 10)
  else if 'A' ≤ char ∧ char ≤ 'F' then some (char.toNat - 'A'.toNat + 10)
  else none

/--
Reads the bounds of ranges such as `41-5A`, of which `code` has been read so far, after the dash if
there is a first code.
-/
def readRanges (first? : Option Nat) (code : Nat) : List Char → List Nat
  | [] => [first?.getD code, code + 1]
  | ' ' :: rest => first?.getD code :: (code + 1) :: readRanges none 0 rest
  | '-' :: rest => readRanges (some code) 0 rest
  | char :: rest => readRanges first? (16 * code + (hexValue? char).getD 0) rest

/-- The set of the ranges in some rows, which are in ascending order and do not touch. -/
def CharSet.ofRows (rows : List String) : CharSet :=
  ⟨rows.flatMap fun row => readRanges Option.none 0 row.toList⟩

/-- A number of codes, one after the other, with one value of a property. -/
structure Run where
  length : Nat
  value : String

/--
Reads runs such as `26Lu`, of the first of which `length` and, backwards, `value` have been read so
far. A run of one code has no length.
-/
def readRuns (length : Nat) (value : List Char) : List Char → List Run
  | [] => [⟨max length 1, String.ofList value.reverse⟩]
  | ' ' :: rest => ⟨max length 1, String.ofList value.reverse⟩ :: readRuns 0 [] rest
  | char :: rest =>
      if char.isDigit ∧ value = [] then
        readRuns (10 * length + (hexValue? char).getD 0) value rest
      else readRuns length (char :: value) rest

/-- The runs in some rows. -/
def Run.ofRows (rows : List String) : List Run :=
  rows.flatMap fun row => readRuns 0 [] row.toList

/--
The bounds of the runs whose values pass, where the first run begins at `start` and `inside` tells
whether the value before it passes.
-/
def boundsWhere (passes : String → Bool) : (inside : Bool) → (start : Nat) → List Run → List Nat
  | inside, start, [] => if inside then [start] else []
  | inside, start, run :: runs =>
      Text.keepBound inside (passes run.value) start
        (boundsWhere passes (passes run.value) (start + run.length) runs)

/-- The codes with a value that passes, where the runs give the values of all codes. -/
def CharSet.whereValue (runs : List Run) (passes : String → Bool) : CharSet :=
  ⟨boundsWhere passes false 0 runs⟩

/--
A name without what does not count: letter case, blanks, dashes and underscores, characters that are
not plain, and `is` at the beginning, except in `isc`.
-/
def foldName (name : String) : String :=
  let chars := name.toList
  let prefixed := (chars.take 2).map Char.toLower = ['i', 's']
  let counted := (if prefixed then chars.drop 2 else chars).filter fun char =>
    char.toNat < 0x80 && !([' ', '_', '-'].contains char)
  let folded := counted.map Char.toLower
  String.ofList (if prefixed ∧ folded = ['c'] then ['i', 's', 'c'] else folded)

/-- The first of some names that are separated by blanks. -/
def firstName (names : String) : String :=
  (Text.splitAtChar ' ' names).headD ""

/-- Whether a folded name is one of some names that are separated by blanks. -/
def isNamed (names : String) (name : String) : Bool :=
  (Text.splitAtChar ' ' names).any fun other => foldName other == name

/-- The entry of a table with a folded name. -/
def lookUp? {α : Type} (table : List (String × α)) (name : String) : Option α :=
  (table.find? fun entry => isNamed entry.1 name).map Prod.snd

end Regex

end TagOrganizer
