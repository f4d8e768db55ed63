import TagOrganizer.Path

/-!
# Ledgers of names

A ledger counts how often each name has been produced in each destination, and remembers which file
produced it first. Destinations are compared by their components. Counts have no limit: fewer than
`2 ^ 32` files of one name are assumed.
-/

namespace TagOrganizer

/-- A name that has been produced in a destination. -/
structure ProducedName where
  destination : Path
  name : String
  /-- How many files have produced the name. -/
  occurrences : Nat
  /-- Where the first of them was found. -/
  first : Path

namespace ProducedName

/-- Whether an entry is for a name in a destination. -/
def isFor (produced : ProducedName) (destination : Path) (name : String) : Bool :=
  produced.destination.sameAs destination && produced.name == name

end ProducedName

/-- The names that have been produced so far. -/
structure Ledger where
  entries : List ProducedName

namespace Ledger

/-- The ledger without names. -/
def empty : Ledger := ⟨[]⟩

/-- How many names have been produced. -/
def size (ledger : Ledger) : Nat :=
  ledger.entries.length

/-- The entry for a name in a destination. -/
def find? (ledger : Ledger) (destination : Path) (name : String) : Option ProducedName :=
  ledger.entries.find? fun produced => produced.isFor destination name

/-- How many files have produced a name in a destination. -/
def occurrences (ledger : Ledger) (destination : Path) (name : String) : Nat :=
  match ledger.find? destination name with
  | some produced => produced.occurrences
  | none => 0

/-- Adds the first occurrence of a name in a destination. -/
def addFirst (ledger : Ledger) (destination : Path) (name : String) (first : Path) : Ledger :=
  ⟨⟨destination, name, 1, first⟩ :: ledger.entries⟩

/-- Counts one more occurrence of a name in a destination. -/
def count (ledger : Ledger) (destination : Path) (name : String) : Ledger :=
  ⟨ledger.entries.map fun produced =>
    if produced.isFor destination name then
      { produced with occurrences := produced.occurrences + 1 }
    else produced⟩

end Ledger

end TagOrganizer
