import TagOrganizer.Regex.Basic
import TagOrganizer.Regex.Property

/-!
# Reading escapes and bracketed sets

The parts of a written regular expression that stand for one character, a set of characters or a
condition on a place.
-/

namespace TagOrganizer

namespace Regex

/-- The switches that change how an expression is read. -/
structure Flags where
  /-- Letter case does not count. -/
  anyCase : Bool
  /-- Line ends count as ends of the text. -/
  multiLine : Bool
  /-- The dot matches line feeds too. -/
  dotAll : Bool
  /-- Repetitions are lazy unless marked. -/
  lazyFirst : Bool
  /-- Lines end in a carriage return, a line feed or both. -/
  anyLines : Bool
  /-- The named classes hold plain characters only. -/
  plainOnly : Bool
  /-- Blanks and comments do not count. -/
  spaced : Bool

/-- The switches that hold at the beginning. -/
def Flags.initial : Flags :=
  ⟨false, false, false, false, false, false, false⟩

/-- What is left of a written expression. -/
abbrev Source := List Char

/-- Drops blanks and comments, if they do not count. -/
def skipSpace (flags : Flags) (source : Source) : Source :=
  if flags.spaced then go source.length source else source
where
  /-- Drops at most `count` blanks and comments. -/
  go : (count : Nat) → Source → Source
    | 0, source => source
    | _, [] => []
    | count + 1, char :: rest =>
        if Text.isBlank char then go count rest
        else if char = '#' then go count ((rest.dropWhile (· != '\n')).drop 1)
        else char :: rest

/-- The characters that have a meaning of their own. -/
def isMeta (char : Char) : Bool :=
  ['\\', '.', '+', '*', '?', '(', ')', '|', '[', ']', '\x7b', '\x7d', '^', '$', '#', '&', '-',
    '~'].contains char

/-- Whether a backslash before a character makes it stand for itself. -/
def isEscapable (char : Char) : Bool :=
  isMeta char || (char.toNat < 0x80 && !char.isAlphanum && char != '<' && char != '>')

/-- The characters that a backslash and a letter stand for. -/
def letterEscape? (char : Char) : Option Char :=
  match char with
  | 'a' => some '\x07'
  | 'f' => some '\x0c'
  | 't' => some '\t'
  | 'n' => some '\n'
  | 'r' => some '\r'
  | 'v' => some '\x0b'
  | _ => none

/-- The character with a code. -/
def charOf? (code : Nat) : Option Char :=
  if code.isValidChar then some (Char.ofNat code) else none

/-- Reads `count` hexadecimal digits after those that make up `value`. -/
def readHex (flags : Flags) : (count value : Nat) → Source → Option (Nat × Source)
  | 0, value, source => some (value, source)
  | count + 1, value, source =>
      match source with
      | [] => none
      | char :: rest => do
          let digit ← hexValue? char
          readHex flags count (value * 16 + digit) (skipSpace flags rest)

/-- Reads hexadecimal digits up to a closing brace. -/
def readBracedHex (flags : Flags) :
    (room value count : Nat) → Source → Option (Nat × Source)
  | 0, _, _, _ => none
  | room + 1, value, count, source =>
      match skipSpace flags source with
      | [] => none
      | '\x7d' :: rest => if count = 0 then none else some (value, skipSpace flags rest)
      | char :: rest => do
          let digit ← hexValue? char
          if Nat.pow 2 32 ≤ value * 16 + digit then none
          else readBracedHex flags room (value * 16 + digit) (count + 1) rest

/-- Reads the code of a plain character that is given as a byte, by two digits. -/
def readByte (flags : Flags) (source : Source) : Option (Nat × Source) := do
  let (code, rest) ← readHex flags 2 0 source
  if flags.plainOnly && 0x80 ≤ code then none else some (code, rest)

/-- Reads the code of a character, which has `count` digits unless it stands in braces. -/
def readCode (flags : Flags) (count : Nat) (source : Source) : Option (Char × Source) := do
  let (code, rest) ←
    match skipSpace flags source with
    | '\x7b' :: rest => readBracedHex flags (rest.length + 1) 0 0 rest
    | source => if count = 2 then readByte flags source else readHex flags count 0 source
  let char ← charOf? code
  return (char, rest)

/-- What one piece of an expression stands for. -/
inductive Piece where
  | char (char : Char)
  | set (set : CharSet)
  | look (look : Look)

/-- The characters of words. -/
def wordSet (flags : Flags) : CharSet :=
  if flags.plainOnly then (CharSet.named? "word").getD .none else .word

/-- All characters but those of a set. -/
def negate (flags : Flags) (set : CharSet) : CharSet :=
  if flags.plainOnly then (CharSet.range '\x00' 'ÿ').difference set else set.complement

/-- All characters that differ from one of a set only in case, if case does not count. -/
def foldCase (flags : Flags) (set : CharSet) : CharSet :=
  if !flags.anyCase then set else if flags.plainOnly then set.anyPlainCase else set.anyCase

/-- The sets that a backslash and a letter stand for. -/
def letterSet? (flags : Flags) (char : Char) : Option CharSet :=
  let plain := fun (name : String) (set : CharSet) =>
    if flags.plainOnly then (CharSet.named? name).getD .none else set
  match char with
  | 'd' => some (plain "digit" .digit)
  | 's' => some (plain "space" .space)
  | 'w' => some (plain "word" .word)
  | 'D' => some (negate flags (plain "digit" .digit))
  | 'S' => some (negate flags (plain "space" .space))
  | 'W' => some (negate flags (plain "word" .word))
  | _ => none

/-- Reads the name of a condition on the edge of a word, up to a closing brace. -/
def readEdgeName (flags : Flags) :
    (room : Nat) → (name : List Char) → Source → Option (String × Source)
  | 0, _, _ => none
  | room + 1, name, source =>
      match source with
      | [] => none
      | '\x7d' :: rest => some (String.ofList name.reverse, rest)
      | char :: rest =>
          if char.isAlpha || char = '-' then
            readEdgeName flags room (char :: name) (skipSpace flags rest)
          else none

/-- Reads what follows a backslash and a `b`: perhaps a condition in braces. -/
def readEdge (flags : Flags) (source : Source) : Option (Look × Source) :=
  let isWord := wordSet flags
  match source with
  | '\x7b' :: rest =>
      match skipSpace flags rest with
      | [] => none
      | char :: inner =>
          if char.isAlpha || char = '-' then do
            let (name, rest) ← readEdgeName flags (inner.length + 2) [] (char :: inner)
            match name with
            | "start" => some (.wordStart isWord, rest)
            | "end" => some (.wordEnd isWord, rest)
            | "start-half" => some (.noWordBefore isWord, rest)
            | "end-half" => some (.noWordAfter isWord, rest)
            | _ => none
          else some (.wordEdge isWord, source)
  | source => some (.wordEdge isWord, source)

/-- Reads the name of a class up to a closing brace; `name` has been read, backwards. -/
def readClassName (flags : Flags) :
    (room : Nat) → (name : List Char) → Source → Option (List Char × Source)
  | 0, _, _ => none
  | room + 1, name, source =>
      match skipSpace flags source with
      | [] => none
      | '\x7d' :: rest => some (name.reverse, rest)
      | char :: rest => readClassName flags room (char :: name) rest

/-- Reads the name of a class, which is one letter or stands in braces. -/
def readClass (flags : Flags) (source : Source) : Option (List Char × Source) :=
  match skipSpace flags source with
  | [] => none
  | '\x7b' :: rest => readClassName flags (rest.length + 1) [] rest
  | '\\' :: _ => none
  | char :: rest => some ([char], skipSpace flags rest)

/-- The characters of a class, or all others; there is no class where only plain ones count. -/
def classPiece? (flags : Flags) (negated : Bool) (name : List Char) : Option Piece :=
  if flags.plainOnly then none
  else (classSet? name).map fun set =>
    .set (if negated then negate flags (foldCase flags set) else foldCase flags set)

/-- Reads what follows a backslash and a `p`, or a `P` if the class is negated: its name. -/
def readClassPiece (flags : Flags) (negated : Bool) (source : Source) :
    Option (Piece × Source) := do
  let (name, rest) ← readClass flags source
  return (← classPiece? flags negated name, rest)

/-- Reads what follows a backslash. -/
def readEscape (flags : Flags) (source : Source) : Option (Piece × Source) :=
  match source with
  | [] => none
  | char :: rest =>
      let isWord := wordSet flags
      if char.isDigit then none
      else if isEscapable char then some (.char char, rest)
      else if let some meant := letterEscape? char then some (.char meant, rest)
      else if let some set := letterSet? flags char then some (.set set, rest)
      else
        match char with
        | 'x' => (readCode flags 2 rest).map fun (char, rest) => (.char char, rest)
        | 'u' => (readCode flags 4 rest).map fun (char, rest) => (.char char, rest)
        | 'U' => (readCode flags 8 rest).map fun (char, rest) => (.char char, rest)
        | 'A' => some (.look .textStart, rest)
        | 'z' => some (.look .textEnd, rest)
        | 'b' => (readEdge flags rest).map fun (edge, rest) => (.look edge, rest)
        | 'B' => some (.look (.noWordEdge isWord), rest)
        | '<' => some (.look (.wordStart isWord), rest)
        | '>' => some (.look (.wordEnd isWord), rest)
        | 'p' => readClassPiece flags false rest
        | 'P' => readClassPiece flags true rest
        | _ => none

/-- A set in brackets and how deep sets are nested in it. -/
structure Nested where
  set : CharSet
  height : Nat

namespace Nested

/-- The union of the items of a set, the newest first. -/
def ofItems : List Nested → Nested
  | [] => ⟨.none, 0⟩
  | [item] => item
  | items =>
      ⟨.unionAll (items.reverse.map Nested.set), 1 + (items.map Nested.height).foldl max 0⟩

/-- The ways to join two sets. -/
inductive Joint where
  | intersection
  | difference
  | symmetric

/-- The set on the left of a joint, which is joined to `right`. -/
def join (flags : Flags) (left : Option (Nested × Joint)) (right : Nested) : Nested :=
  match left with
  | none => right
  | some (left, joint) =>
      let first := foldCase flags left.set
      let second := foldCase flags right.set
      let height := 1 + max left.height right.height
      match joint with
      | .intersection => ⟨first.intersection second, height⟩
      | .difference => ⟨first.difference second, height⟩
      | .symmetric => ⟨first.symmetric second, height⟩

end Nested

/-- Reads a named set such as `[:alpha:]`, after its opening bracket. -/
def readNamed? (flags : Flags) (source : Source) : Option (Nested × Source) :=
  match source with
  | ':' :: rest =>
      let (negated, rest) :=
        match rest with
        | '^' :: rest => (true, rest)
        | rest => (false, rest)
      let name := rest.takeWhile (· != ':')
      match rest.dropWhile (· != ':') with
      | ':' :: ']' :: rest => do
          let set ← CharSet.named? (String.ofList name)
          let folded := foldCase flags set
          return (⟨if negated then negate flags folded else folded, 0⟩, rest)
      | _ => none
  | _ => none

/-- Whether a piece may be in a set; where only plain characters are known, others may not. -/
def Piece.isAdmitted (flags : Flags) : Piece → Bool
  | .char found => !flags.plainOnly || found.toNat < 0x80
  | _ => true

/-- Reads one end of a range, or a character or set that stands alone. -/
def readItem (flags : Flags) (source : Source) : Option (Piece × Source) := do
  let (piece, rest) ←
    match source with
    | [] => none
    | '\\' :: rest => readEscape flags rest
    | char :: rest => some (.char char, rest)
  if piece.isAdmitted flags then some (piece, rest) else none

/-- Reads an item of a set: a range, a character or a set. -/
def readRange (flags : Flags) (source : Source) : Option (Nested × Source) := do
  let (first, rest) ← readItem flags source
  let rest := skipSpace flags rest
  let alone : Option (Nested × Source) :=
    match first with
    | .char char => some (⟨.single char, 0⟩, rest)
    | .set set => some (⟨set, 0⟩, rest)
    | .look _ => none
  match rest with
  | [] => none
  | '-' :: more =>
      match skipSpace flags more with
      | [] => none
      | ']' :: _ => alone
      | '-' :: _ => alone
      | more =>
          let (last, rest) ← readItem flags more
          match first, last with
          | .char low, .char high =>
              if low ≤ high then some (⟨.range low high, 0⟩, rest) else none
          | _, _ => none
  | _ => alone

/-- Reads the dashes at the beginning of a set. -/
def readDashes (flags : Flags) : (room : Nat) → List Nested → Source → List Nested × Source
  | 0, items, source => (items, source)
  | room + 1, items, source =>
      match source with
      | '-' :: rest => readDashes flags room (⟨.single '-', 0⟩ :: items) (skipSpace flags rest)
      | source => (items, source)

mutual

/-- Reads a set in brackets, after its opening bracket. -/
def readSet (flags : Flags) : (room : Nat) → Source → Option (Nested × Source)
  | 0, _ => none
  | room + 1, source => do
      let (negated, source) :=
        match skipSpace flags source with
        | '^' :: rest => (true, skipSpace flags rest)
        | source => (false, source)
      let (items, source) := readDashes flags source.length [] source
      let (items, source) :=
        match items, source with
        | [], ']' :: rest => ([⟨.single ']', 0⟩], skipSpace flags rest)
        | items, source => (items, source)
      let (inner, rest) ← readItems flags room none items source
      let set := foldCase flags inner.set
      return (⟨if negated then negate flags set else set, 1 + inner.height⟩, rest)

/-- Reads the items of a set up to its closing bracket; `items` have been read, the newest first. -/
def readItems (flags : Flags) :
    (room : Nat) → (left : Option (Nested × Nested.Joint)) → (items : List Nested) → Source →
      Option (Nested × Source)
  | 0, _, _, _ => none
  | room + 1, left, items, source =>
      let joined := Nested.join flags left (Nested.ofItems items)
      match skipSpace flags source with
      | [] => none
      | '[' :: rest =>
          match readNamed? flags rest with
          | some (item, rest) => readItems flags room left (item :: items) rest
          | none => do
              let (item, rest) ← readSet flags room rest
              readItems flags room left (item :: items) rest
      | ']' :: rest => some (joined, rest)
      | '&' :: '&' :: rest => readItems flags room (some (joined, .intersection)) [] rest
      | '-' :: '-' :: rest => readItems flags room (some (joined, .difference)) [] rest
      | '~' :: '~' :: rest => readItems flags room (some (joined, .symmetric)) [] rest
      | source => do
          let (item, rest) ← readRange flags source
          readItems flags room left (item :: items) rest

end

/-- Whether a set holds plain characters only, so that it can be used where only those count. -/
def isPlain (set : CharSet) : Bool :=
  (set.intersection (.range '\x80' 'ÿ')).isEmpty

/-- The set of a piece, where only plain characters count if `plainOnly` is on. -/
def admitSet? (flags : Flags) (set : CharSet) : Option CharSet :=
  if flags.plainOnly && !isPlain set then none else some set

end Regex

end TagOrganizer
