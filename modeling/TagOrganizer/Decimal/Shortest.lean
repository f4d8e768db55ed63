/-!
# Shortest decimals

The decimal with the fewest digits that reads back as a given double. A double is taken apart into
`mantissa * 2 ^ exponent`, and all reals nearer to it than to any other double form an interval
around it. For each number of digits from one to seventeen the two neighbours of the double on that
decimal grid are tried; the first grid that has a neighbour in the interval decides.
-/

namespace TagOrganizer

namespace Decimal

/-- The magnitude of a finite double, in units of a quarter of its last place. -/
structure Binary where
  /-- Four times the mantissa. -/
  quarters : Nat
  /-- How many quarters below the double its interval begins. -/
  below : Nat
  /-- The power of two by which a quarter is scaled. -/
  exponent : Int
  /-- Whether the ends of the interval read back as the double. -/
  closed : Bool

/-- The parts of the magnitude of a finite double, given its bits. -/
def Binary.ofBits (bits : UInt64) : Binary :=
  let field : Nat := (bits.toNat / Nat.pow 2 52) % Nat.pow 2 11
  let fraction := bits.toNat % Nat.pow 2 52
  let mantissa := if field = 0 then fraction else fraction + Nat.pow 2 52
  let exponent : Int := if field = 0 then -1074 else (field : Int) - 1075
  { quarters := 4 * mantissa
    below := if fraction = 0 ∧ 1 < field then 1 else 2
    exponent := exponent - 2
    closed := mantissa % 2 = 0 }

/-- A decimal `digits * 10 ^ exponent`. -/
structure Scaled where
  digits : Nat
  exponent : Int
  deriving DecidableEq

/-- Both sides of a comparison of `left * 2 ^ exponent` with `right * 10 ^ scale`, as naturals. -/
def commonScale (left : Nat) (exponent : Int) (right : Nat) (scale : Int) : Nat × Nat :=
  (left * Nat.pow 2 exponent.toNat * Nat.pow 10 (-scale).toNat,
    right * Nat.pow 2 (-exponent).toNat * Nat.pow 10 scale.toNat)

/-- Whether `digits * 10 ^ scale` lies in the interval of the double. -/
def Binary.covers (binary : Binary) (digits : Nat) (scale : Int) : Bool :=
  let low := commonScale (binary.quarters - binary.below) binary.exponent digits scale
  let high := commonScale (binary.quarters + 2) binary.exponent digits scale
  if binary.closed then low.1 ≤ low.2 && high.2 ≤ high.1 else low.1 < low.2 && high.2 < high.1

/-- The neighbour of the double on the grid of `10 ^ scale` that reads back, the nearer of two. -/
def Binary.onGrid? (binary : Binary) (scale : Int) : Option Nat :=
  let (numerator, denominator) := commonScale binary.quarters binary.exponent 1 scale
  let under := numerator / denominator
  let rest := numerator % denominator
  match binary.covers under scale, binary.covers (under + 1) scale with
  | true, true =>
      if 2 * rest < denominator ∨ (2 * rest = denominator ∧ under % 2 = 0) then some under
      else some (under + 1)
  | true, false => some under
  | false, true => some (under + 1)
  | false, false => none

/-- The exponent of the leading decimal digit of a positive magnitude. -/
def Binary.magnitude (binary : Binary) : Int :=
  let (numerator, denominator) := commonScale binary.quarters binary.exponent 1 (-400)
  ((Nat.repr (numerator / denominator)).length : Int) - 401

/-- Moves the zeros at the end of the digits into the exponent. -/
def Scaled.trim (scaled : Scaled) : Scaled :=
  go 20 scaled
where
  /-- Drops at most `count` zeros. -/
  go : (count : Nat) → Scaled → Scaled
    | 0, scaled => scaled
    | count + 1, scaled =>
        if scaled.digits ≠ 0 ∧ scaled.digits % 10 = 0 then
          go count ⟨scaled.digits / 10, scaled.exponent + 1⟩
        else scaled

/-- The shortest decimal that reads back as the magnitude of the double with the given bits. -/
def shortest (bits : UInt64) : Scaled :=
  let binary := Binary.ofBits bits
  if binary.quarters = 0 then ⟨0, 0⟩
  else
    let magnitude := binary.magnitude
    let found := (List.range 17).findSome? fun (more : Nat) =>
      let scale := magnitude - more
      (binary.onGrid? scale).map fun digits => Scaled.trim ⟨digits, scale⟩
    found.getD ⟨0, 0⟩

end Decimal

end TagOrganizer
