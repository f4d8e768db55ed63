import TagOrganizer.Json.Number

/-!
# Tokens of a data text

A data text is read from left to right as a list of tokens. The list ends at the first place that
cannot be read; what is wrong there depends on whether the value is wanted or only skipped.
-/

namespace TagOrganizer

namespace Json

/-- Why a data text, or a value of it, is refused. -/
inductive Fault where
  /-- The text is not well formed. -/
  | malformed
  /-- The text ends too early. -/
  | truncated
  /-- A value is not of the shape that is wanted. -/
  | mismatched
  deriving DecidableEq

/-- What is wrong at a place that cannot be read, if the value is kept and if it is skipped. -/
structure Breakage where
  kept : Fault
  skipped : Fault

/-- The text is not well formed, whatever it is read for. -/
def Breakage.malformed : Breakage := ⟨.malformed, .malformed⟩

/-- The text ends too early, whatever it is read for. -/
def Breakage.truncated : Breakage := ⟨.truncated, .truncated⟩

/-- A token of a data text. -/
inductive Token where
  | openArray
  | closeArray
  | openObject
  | closeObject
  | comma
  | colon
  | null
  | boolean (value : Bool)
  /-- A number; `none` when it is out of range. -/
  | number (value : Option Number)
  /-- A text; `none` when half of a surrogate pair is missing. -/
  | text (value : Option String)
  /-- A text that cannot be read to its end. -/
  | brokenText (breakage : Breakage)
  /-- Anything else that cannot be read. -/
  | brokenWord (breakage : Breakage)

namespace Token

/-- The blanks between tokens. -/
def isSpace (char : Char) : Bool :=
  char == ' ' || char == '\n' || char == '\t' || char == '\r'

/-- The value of a hexadecimal digit. -/
def hexValue? (char : Char) : Option Nat :=
  if char.isDigit then some (char.toNat - '0'.toNat)
  else if 'a' ≤ char ∧ char ≤ 'f' then some (char.toNat - 'a'.toNat + 10)
  else if 'A' ≤ char ∧ char ≤ 'F' then some (char.toNat - 'A'.toNat + 10)
  else none

/-- The number written in four hexadecimal digits. -/
def fourHex? (a b c d : Char) : Option Nat := do
  let a ← hexValue? a
  let b ← hexValue? b
  let c ← hexValue? c
  let d ← hexValue? d
  return ((a * 16 + b) * 16 + c) * 16 + d

/-- What is wrong with a hexadecimal escape that stands before `rest`. -/
def hexBreakage (rest : List Char) : Breakage :=
  if (String.ofList rest).utf8ByteSize < 4 then .truncated else .malformed

/-- Whether a code is the first half of a surrogate pair. -/
def isHighHalf (code : Nat) : Bool :=
  0xD800 ≤ code && code ≤ 0xDBFF

/-- Whether a code is the second half of a surrogate pair. -/
def isLowHalf (code : Nat) : Bool :=
  0xDC00 ≤ code && code ≤ 0xDFFF

/-- The character that a backslash and `char` stand for. -/
def unescape? (char : Char) : Option Char :=
  if char = '"' ∨ char = '\\' ∨ char = '/' then some char
  else if char = 'b' then some '\x08'
  else if char = 'f' then some '\x0c'
  else if char = 'n' then some '\n'
  else if char = 'r' then some '\r'
  else if char = 't' then some '\t'
  else none

/-- What a text goes on with at some place. -/
inductive Piece where
  /-- The closing quote. -/
  | ending (rest : List Char)
  /-- A character. -/
  | char (char : Char) (rest : List Char)
  /-- Half of a surrogate pair without its other half. -/
  | half (rest : List Char)
  /-- Something that cannot be read. -/
  | broken (breakage : Breakage)

/-- Reads four hexadecimal digits. -/
def scanHex (rest : List Char) : Except Breakage (Nat × List Char) :=
  match rest with
  | a :: b :: c :: d :: after =>
      match fourHex? a b c d with
      | some code => .ok (code, after)
      | none => .error (hexBreakage rest)
  | _ => .error (hexBreakage rest)

/-- Reads what follows the first half `high` of a surrogate pair. -/
def scanLowHalf (high : Nat) (rest : List Char) : Piece :=
  match rest with
  | [] => .broken .truncated
  | ['\\'] => .broken .truncated
  | '\\' :: 'u' :: after =>
      match scanHex after with
      | .error breakage => .broken breakage
      | .ok (low, after) =>
          if isLowHalf low then
            .char (Char.ofNat (0x10000 + (high - 0xD800) * 0x400 + (low - 0xDC00))) after
          else .half rest
  | _ => .half rest

/-- Reads the next piece of a text in quotes. -/
def scanPiece : List Char → Piece
  | [] => .broken .truncated
  | '"' :: rest => .ending rest
  | ['\\'] => .broken .truncated
  | '\\' :: 'u' :: rest =>
      match scanHex rest with
      | .error breakage => .broken breakage
      | .ok (code, rest) =>
          if isHighHalf code then scanLowHalf code rest
          else if isLowHalf code then .half rest
          else .char (Char.ofNat code) rest
  | '\\' :: char :: rest =>
      match unescape? char with
      | some meant => .char meant rest
      | none => .broken .malformed
  | char :: rest => if char.toNat < 0x20 then .broken .malformed else .char char rest

/--
Reads at most `room` pieces of a text, after its opening quote. `read` holds the characters read so
far, newest first. Where half of a surrogate pair is missing the text is lost, and reading goes on
as for a text that is skipped.
-/
def scanText : (room : Nat) → (read : Option (List Char)) → List Char → Token × List Char
  | 0, _, _ => (.brokenText .truncated, [])
  | room + 1, read, source =>
      match scanPiece source with
      | .ending rest => (.text (read.map fun chars => String.ofList chars.reverse), rest)
      | .char char rest => scanText room (read.map (char :: ·)) rest
      | .half rest => scanText room none rest
      | .broken breakage =>
          (.brokenText (if read.isSome then breakage else { breakage with kept := .malformed }), [])

/-- What is wrong with a number that lacks a digit before `rest`. -/
def digitBreakage (rest : List Char) : Breakage :=
  if rest.isEmpty then ⟨.truncated, .malformed⟩ else .malformed

/-- Reads the exponent of a number, after its mark. -/
def scanExponent (written : NumberText) (rest : List Char) : Token × List Char :=
  let (negative, rest) :=
    match rest with
    | '-' :: rest => (true, rest)
    | '+' :: rest => (false, rest)
    | rest => (false, rest)
  let digits := rest.takeWhile Char.isDigit
  if digits.isEmpty then (.brokenWord (digitBreakage rest), [])
  else
    (.number (NumberText.value? { written with exponent := some (negative, digits) }),
      rest.dropWhile Char.isDigit)

/-- Reads what may follow the digits of a number: an exponent. -/
def scanTail (written : NumberText) (rest : List Char) : Token × List Char :=
  match rest with
  | 'e' :: rest => scanExponent written rest
  | 'E' :: rest => scanExponent written rest
  | rest => (.number written.value?, rest)

/-- Reads a number, after its sign. A zero at the front stands alone. -/
def scanNumber (negative : Bool) (rest : List Char) : Token × List Char :=
  let whole := rest.takeWhile Char.isDigit
  let after := rest.dropWhile Char.isDigit
  if whole.isEmpty then (.brokenWord (digitBreakage rest), [])
  else if whole.head? = some '0' ∧ 1 < whole.length then (.brokenWord .malformed, [])
  else
    match after with
    | '.' :: after =>
        let fraction := after.takeWhile Char.isDigit
        if fraction.isEmpty then (.brokenWord (digitBreakage after), [])
        else scanTail ⟨negative, whole, some fraction, none⟩ (after.dropWhile Char.isDigit)
    | after => scanTail ⟨negative, whole, none, none⟩ after

/-- Reads the rest of a word, whose token is `token`. -/
def scanWord (token : Token) : (expected source : List Char) → Token × List Char
  | [], source => (token, source)
  | _ :: _, [] => (.brokenWord .truncated, [])
  | char :: expected, found :: source =>
      if char = found then scanWord token expected source else (.brokenWord .malformed, [])

/-- Reads the token that begins with `char`; at most `room` characters follow. -/
def scan (room : Nat) (char : Char) (rest : List Char) : Token × List Char :=
  if char = '[' then (.openArray, rest)
  else if char = ']' then (.closeArray, rest)
  else if char = '\x7b' then (.openObject, rest)
  else if char = '\x7d' then (.closeObject, rest)
  else if char = ',' then (.comma, rest)
  else if char = ':' then (.colon, rest)
  else if char = '"' then scanText (room + 1) (some []) rest
  else if char = 'n' then scanWord .null ['u', 'l', 'l'] rest
  else if char = 't' then scanWord (.boolean true) ['r', 'u', 'e'] rest
  else if char = 'f' then scanWord (.boolean false) ['a', 'l', 's', 'e'] rest
  else if char = '-' then scanNumber true rest
  else if char.isDigit then scanNumber false (char :: rest)
  else (.brokenWord .malformed, [])

/-- Reads at most `room` tokens. -/
def listUpTo : (room : Nat) → List Char → List Token
  | 0, _ => []
  | room + 1, source =>
      match source.dropWhile isSpace with
      | [] => []
      | char :: rest =>
          let (token, rest) := scan room char rest
          token :: listUpTo room rest

/-- The tokens of a text, up to the first place that cannot be read. -/
def listOf (source : String) : List Token :=
  listUpTo source.length source.toList

end Token

end Json

end TagOrganizer
