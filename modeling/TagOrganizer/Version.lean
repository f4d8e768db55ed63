import TagOrganizer.Text.Blank
import TagOrganizer.Text.Fragment

/-!
# Version numbers

Dotted version numbers such as `1.1` or `3.1.4`. Components that are missing at the end count as
zero, so `1` and `1.0` are the same version.
-/

namespace TagOrganizer

/-- A dotted version number. -/
structure Version where
  components : List Nat
  deriving DecidableEq

namespace Version

/-- The number that a list of decimal digits denotes, `none` if there are no or other characters. -/
def digits? (digits : List Char) : Option Nat :=
  if digits.isEmpty || digits.any fun char => !char.isDigit then none
  else some (digits.foldl (fun value char => value * 10 + (char.toNat - '0'.toNat)) 0)

/-- A component: decimal digits, perhaps after a plus sign, of a value below `2 ^ 64`. -/
def component? (text : String) : Option Nat :=
  let digits :=
    match text.toList with
    | '+' :: digits => digits
    | digits => digits
  (digits? digits).filter (· < Nat.pow 2 64)

/-- Reads a version number; blanks around it do not count. -/
def parse? (text : String) : Option Version :=
  ((Text.splitAtChar '.' (Text.trim text)).mapM component?).map Version.mk

/-- Compares component by component, as if both lists went on with zeros. -/
def compareComponents : (left right : List Nat) → Ordering
  | [], [] => .eq
  | [], component :: right => (compare 0 component).then (compareComponents [] right)
  | component :: left, [] => (compare component 0).then (compareComponents left [])
  | component :: left, other :: right =>
      (compare component other).then (compareComponents left right)

/-- The order of versions. -/
def compare (left right : Version) : Ordering :=
  compareComponents left.components right.components

/-- Whether two versions are the same up to zeros at the end. -/
def sameAs (left right : Version) : Bool :=
  left.compare right = .eq

/-- Whether a version lies between `oldest` and `newest`, both included. -/
def isWithin (version oldest newest : Version) : Bool :=
  version.compare oldest ≠ .lt && version.compare newest ≠ .gt

/-- The text of a version number. -/
def text (version : Version) : String :=
  ".".intercalate (version.components.map Nat.repr)

end Version

end TagOrganizer
