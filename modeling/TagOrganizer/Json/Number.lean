import TagOrganizer.Decimal.Shortest

/-!
# Numbers of a data text

A number is kept as a 64-bit integer where it is written as one and fits, and as a double otherwise.
-/

namespace TagOrganizer

namespace Json

/-- A number: not negative, negative, or a double given by its bits. -/
inductive Number where
  | natural (value : Nat)
  | negative (magnitude : Nat)
  | double (bits : UInt64)
  deriving DecidableEq

/-- How a number is written: digits, then perhaps a fraction and a power of ten. -/
structure NumberText where
  negative : Bool
  whole : List Char
  fraction : Option (List Char)
  /-- The sign (`true` for a minus) and the digits of the exponent. -/
  exponent : Option (Bool × List Char)

namespace NumberText

/-- The value of a decimal digit. -/
def digitValue (digit : Char) : Nat :=
  digit.toNat - '0'.toNat

/-- The number that a list of digits denotes. -/
def naturalOf (digits : List Char) : Nat :=
  digits.foldl (fun value digit => value * 10 + digitValue digit) 0

/--
Appends digits to a significand as long as it fits in 64 bits. Gives the significand, the number of
digits appended and the number of digits left over.
-/
def absorb (significand : Nat) : (digits : List Char) → Nat × Nat × Nat
  | [] => (significand, 0, 0)
  | digit :: digits =>
      let grown := significand * 10 + digitValue digit
      if grown < Nat.pow 2 64 then
        let (final, taken, left) := absorb grown digits
        (final, taken + 1, left)
      else (significand, 0, digits.length + 1)

/-- The largest power of ten by which a double is scaled in one step. -/
def largestStep : Nat := 308

/-- A double scaled by a power of ten, `none` when it grows beyond the largest double. -/
def scale : (steps : Nat) → (value : Float) → (exponent : Int) → Option Float
  | 0, value, _ => some value
  | steps + 1, value, exponent =>
      if exponent.natAbs ≤ largestStep then
        let power := Float.ofScientific 1 false exponent.natAbs
        if 0 ≤ exponent then
          let scaled := value * power
          if scaled.isInf then none else some scaled
        else some (value / power)
      else if value == 0 then some value
      else if 0 ≤ exponent then none
      else scale steps (value / Float.ofScientific 1 false largestStep) (exponent + largestStep)

/-- The double `± significand * 10 ^ exponent`, `none` when it is out of range. -/
def doubleOf (negative : Bool) (significand : Nat) (exponent : Int) : Option Number :=
  (scale 4 (Float.ofNat significand) exponent).map fun value =>
    .double (if negative then -value else value).toBits

/-- The number that a written number denotes, `none` when it is out of range. -/
def value? (text : NumberText) : Option Number :=
  let (significand, _, dropped) := absorb 0 text.whole
  match text.fraction, text.exponent with
  | none, none =>
      if dropped ≠ 0 then doubleOf text.negative significand dropped
      else if !text.negative then some (.natural significand)
      else if significand = 0 ∨ Nat.pow 2 63 < significand then doubleOf true significand 0
      else some (.negative significand)
  | fraction, exponent =>
      let (significand, taken, _) := absorb significand (fraction.getD [])
      let power : Int :=
        match exponent with
        | none => 0
        | some (true, digits) => -(naturalOf digits : Int)
        | some (false, digits) => naturalOf digits
      doubleOf text.negative significand (dropped - taken + power)

end NumberText

/-- Where the positional notation of doubles ends, and the sign of large exponents. -/
structure DoubleLayout where
  /-- The largest number of digits before the point. -/
  mostWhole : Int
  /-- The largest number of zeros between the point and the first digit. -/
  mostZeros : Int
  /-- What is written before an exponent that is not negative. -/
  exponentSign : String

/-- Doubles are positional from `0.00001` up to below `10 ^ 16`. -/
def doubleLayout : DoubleLayout := ⟨16, 4, "+"⟩

namespace Number

/-- The text of `count` zeros. -/
def zeros (count : Nat) : String :=
  String.ofList (List.replicate count '0')

/-- The text of the magnitude of a double: its shortest digits, with a point or an exponent. -/
def magnitudeText (layout : DoubleLayout) (scaled : Decimal.Scaled) : String :=
  let digits := Nat.repr scaled.digits
  let whole : Int := digits.length + scaled.exponent
  if scaled.digits = 0 then "0.0"
  else if 0 ≤ scaled.exponent ∧ whole ≤ layout.mostWhole then
    digits ++ zeros scaled.exponent.toNat ++ ".0"
  else if 0 < whole ∧ whole ≤ layout.mostWhole then
    String.ofList (digits.toList.take whole.toNat) ++ "." ++
      String.ofList (digits.toList.drop whole.toNat)
  else if -layout.mostZeros ≤ whole ∧ whole ≤ 0 then
    "0." ++ zeros (-whole).toNat ++ digits
  else
    let rest := digits.toList.drop 1
    let point := if rest.isEmpty then "" else "." ++ String.ofList rest
    let sign := if 0 < whole then layout.exponentSign else "-"
    String.ofList (digits.toList.take 1) ++ point ++ "e" ++ sign ++ Nat.repr (whole - 1).natAbs

/-- The text of a number. -/
def text : Number → String
  | .natural value => Nat.repr value
  | .negative magnitude => "-" ++ Nat.repr magnitude
  | .double bits =>
      (if Nat.pow 2 63 ≤ bits.toNat then "-" else "") ++
        magnitudeText doubleLayout (Decimal.shortest bits)

end Number

end Json

end TagOrganizer
