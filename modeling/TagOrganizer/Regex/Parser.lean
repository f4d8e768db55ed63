import TagOrganizer.Regex.Class
import TagOrganizer.Regex.Footprint
import TagOrganizer.Text.Letter

/-!
# Reading regular expressions

A written expression is read from left to right with a stack of open groups. Groups and sets may be
nested at most 250 deep, and an expression may not grow too large when its repetitions are unfolded.
-/

namespace TagOrganizer

namespace Regex

/-- A part of a sequence. -/
structure Part where
  regex : Regex
  /-- How deep parts are nested in it. -/
  height : Nat
  /-- Whether it may be repeated; a change of switches may not. -/
  repeatable : Bool

namespace Part

/-- The largest height of a list of parts. -/
def highest (parts : List Part) : Nat :=
  (parts.map Part.height).foldl max 0

/-- The parts of a sequence, the last one first, as one part. -/
def sequence : List Part → Part
  | [] => ⟨.empty, 0, true⟩
  | [part] => part
  | parts => ⟨Regex.sequence (parts.reverse.map Part.regex), 1 + highest parts, true⟩

/-- The alternatives, the last one first, as one part. -/
def alternatives : List Part → Part
  | [] => ⟨.empty, 0, true⟩
  | [part] => part
  | parts => ⟨Regex.choice (parts.reverse.map Part.regex), 1 + highest parts, true⟩

end Part

/-- What has been read inside a group: earlier alternatives and parts, each the last one first. -/
structure Level where
  branches : List Part
  parts : List Part

namespace Level

/-- A level in which nothing has been read. -/
def start : Level := ⟨[], []⟩

/-- Adds a part. -/
def push (level : Level) (part : Part) : Level :=
  { level with parts := part :: level.parts }

/-- Begins the next alternative. -/
def nextBranch (level : Level) : Level :=
  ⟨Part.sequence level.parts :: level.branches, []⟩

/-- The whole level as one part. -/
def close (level : Level) : Part :=
  Part.alternatives (Part.sequence level.parts :: level.branches)

end Level

/-- Which group a pair of parentheses makes up. -/
inductive Grouping where
  /-- The parentheses do nothing but hold together what is inside. -/
  | plain
  | numbered (number : Nat) (name : Option String)

/-- What is inside a pair of parentheses as an expression. -/
def Grouping.wrap (grouping : Grouping) (inner : Regex) : Regex :=
  match grouping with
  | .plain => inner
  | .numbered number name => .group number name inner

/-- An open group: what was read before it, the switches there, and what it makes up. -/
structure Frame where
  outer : Level
  flags : Flags
  grouping : Grouping

/-- What has been read of an expression. -/
structure Reading where
  flags : Flags
  level : Level
  frames : List Frame
  /-- How many groups have been opened that count. -/
  groups : Nat
  names : List String

namespace Reading

/-- Nothing has been read. -/
def start : Reading := ⟨Flags.initial, Level.start, [], 0, []⟩

/-- Adds a part to the innermost group. -/
def push (reading : Reading) (part : Part) : Reading :=
  { reading with level := reading.level.push part }

/-- Adds a part that consumes one character or none. -/
def pushLeaf (reading : Reading) (regex : Regex) : Reading :=
  reading.push ⟨regex, 0, true⟩

/-- Opens a pair of parentheses that does not count as a group. -/
def openPlain (reading : Reading) (flags : Flags) : Reading :=
  { reading with
    flags := flags
    level := Level.start
    frames := ⟨reading.level, reading.flags, .plain⟩ :: reading.frames }

/-- Opens a group. -/
def openGroup (reading : Reading) (name : Option String) : Reading :=
  let number := reading.groups + 1
  { reading with
    level := Level.start
    frames := ⟨reading.level, reading.flags, .numbered number name⟩ :: reading.frames
    groups := number
    names := name.toList ++ reading.names }

/-- Closes the innermost pair of parentheses. -/
def close? (reading : Reading) : Option Reading :=
  match reading.frames with
  | [] => none
  | frame :: frames =>
      let inner := reading.level.close
      let regex := frame.grouping.wrap inner.regex
      some { reading with
        flags := frame.flags
        level := frame.outer.push ⟨regex, 1 + inner.height, true⟩
        frames := frames }

/-- Repeats the last part. -/
def repeatLast? (reading : Reading) (least : Nat) (most : Option Nat) (marked : Bool) :
    Option Reading :=
  match reading.level.parts with
  | [] => none
  | part :: parts =>
      if !part.repeatable then none
      else
        let greedy := marked == reading.flags.lazyFirst
        let regex := part.regex.repeated least most greedy
        some { reading with
          level := { reading.level with parts := ⟨regex, 1 + part.height, true⟩ :: parts } }

end Reading

/-- Whether a name may begin with a character. -/
def isNameStart (char : Char) : Bool :=
  char == '_' || Text.isLetter char

/-- Whether a name may hold a character after its first one. -/
def isNameChar (char : Char) : Bool :=
  isNameStart char || Text.isNumber char || char == '.' || char == '[' || char == ']'

/-- Reads the name of a group, up to a closing angle bracket. Each name may be used once. -/
def readName (names : List String) (source : Source) : Option (String × Source) :=
  let name := source.takeWhile (· != '>')
  match source.dropWhile (· != '>') with
  | '>' :: rest =>
      let text := String.ofList name
      match name with
      | [] => none
      | first :: others =>
          if isNameStart first && others.all isNameChar && !names.contains text then
            some (text, rest)
          else none
  | _ => none

/-- Sets the switch with a letter. -/
def setFlag? (flags : Flags) (letter : Char) (value : Bool) : Option Flags :=
  match letter with
  | 'i' => some { flags with anyCase := value }
  | 'm' => some { flags with multiLine := value }
  | 's' => some { flags with dotAll := value }
  | 'U' => some { flags with lazyFirst := value }
  | 'u' => some { flags with plainOnly := !value }
  | 'R' => some { flags with anyLines := value }
  | 'x' => some { flags with spaced := value }
  | _ => none

/--
Reads switches up to a colon or a closing parenthesis. `seen` are the letters read so far, the last
one first; a dash turns the switches after it off. No letter may occur twice.
-/
def readFlags (flags : Flags) : (seen : List Char) → Source → Option (Flags × List Char × Source)
  | _, [] => none
  | seen, char :: rest =>
      if char = ':' ∨ char = ')' then
        if seen.head? = some '-' then none else some (flags, seen, char :: rest)
      else if seen.contains char then none
      else if char = '-' then readFlags flags ('-' :: seen) rest
      else do
        let flags ← setFlag? flags char (!seen.contains '-')
        readFlags flags (char :: seen) rest

/-- Reads the beginning of a group, after its opening parenthesis. -/
def readOpening (reading : Reading) (source : Source) : Option (Reading × Source) :=
  match skipSpace reading.flags source with
  | '?' :: '=' :: _ => none
  | '?' :: '!' :: _ => none
  | '?' :: '<' :: '=' :: _ => none
  | '?' :: '<' :: '!' :: _ => none
  | '?' :: 'P' :: '<' :: rest => do
      let (name, rest) ← readName reading.names rest
      return (reading.openGroup (some name), rest)
  | '?' :: '<' :: rest => do
      let (name, rest) ← readName reading.names rest
      return (reading.openGroup (some name), rest)
  | '?' :: rest => do
      let (flags, seen, rest) ← readFlags reading.flags [] rest
      match rest with
      | ')' :: rest =>
          if seen.isEmpty then none
          else some ({ reading.push ⟨.empty, 0, false⟩ with flags := flags }, rest)
      | _ => some (reading.openPlain flags, rest.drop 1)
  | source => some (reading.openGroup none, source)

/-- Reads a decimal number below `2 ^ 32`; blanks around it do not count. -/
def readCount (flags : Flags) (source : Source) : Option (Nat × Source) :=
  go source.length none (source.dropWhile Text.isBlank)
where
  /-- Reads at most `room` digits after those that make up `value`. -/
  go : (room : Nat) → (value : Option Nat) → Source → Option (Nat × Source)
    | room + 1, value, char :: rest =>
        if char.isDigit then
          go room (some (value.getD 0 * 10 + (char.toNat - '0'.toNat))) (skipSpace flags rest)
        else finish value (char :: rest)
    | _, value, source => finish value source
  /-- The number that has been read. -/
  finish (value : Option Nat) (source : Source) : Option (Nat × Source) :=
    match value with
    | some value =>
        if value < Nat.pow 2 32 then some (value, skipSpace flags (source.dropWhile Text.isBlank))
        else none
    | none => none

/-- Reads the counts of a repetition, after its opening brace. -/
def readCounts (flags : Flags) (source : Source) : Option (Nat × Option Nat × Source) := do
  let (least, rest) ← readCount flags (skipSpace flags source)
  match rest with
  | '\x7d' :: rest => some (least, some least, rest)
  | ',' :: rest =>
      match skipSpace flags rest with
      | '\x7d' :: rest => some (least, none, rest)
      | rest =>
          let (most, rest) ← readCount flags rest
          match rest with
          | '\x7d' :: rest => if least ≤ most then some (least, some most, rest) else none
          | _ => none
  | _ => none

/-- Repeats the last part; a question mark makes the repetition lazy. -/
def readRepetition (reading : Reading) (least : Nat) (most : Option Nat) (source : Source) :
    Option (Reading × Source) :=
  match source with
  | '?' :: rest => (reading.repeatLast? least most true).map fun reading => (reading, rest)
  | source => (reading.repeatLast? least most false).map fun reading => (reading, source)

/-- The expression that matches one character of a set. -/
def oneOf? (flags : Flags) (set : CharSet) : Option Regex :=
  (admitSet? flags set).map Regex.one

/-- The expression that a dot stands for. -/
def dot? (flags : Flags) : Option Regex :=
  if flags.plainOnly then none
  else if flags.dotAll then some (.one .any)
  else if flags.anyLines then
    some (.one ((CharSet.single '\n').union (.single '\r')).complement)
  else some (.one (CharSet.single '\n').complement)

/-- The condition that a caret stands for. -/
def caret (flags : Flags) : Look :=
  if !flags.multiLine then .textStart else if flags.anyLines then .anyLineStart else .lineStart

/-- The condition that a dollar sign stands for. -/
def dollar (flags : Flags) : Look :=
  if !flags.multiLine then .textEnd else if flags.anyLines then .anyLineEnd else .lineEnd

/-- Reads the piece of an expression that begins with `char`. -/
def readStep (reading : Reading) (char : Char) (rest : Source) : Option (Reading × Source) :=
  let flags := reading.flags
  match char with
  | '(' => readOpening reading rest
  | ')' => reading.close?.map fun reading => (reading, rest)
  | '|' => some ({ reading with level := reading.level.nextBranch }, rest)
  | '[' => do
      let (inner, rest) ← readSet flags (2 * rest.length + 2) rest
      let regex ← oneOf? flags inner.set
      return (reading.push ⟨regex, inner.height, true⟩, rest)
  | '?' => readRepetition reading 0 (some 1) rest
  | '*' => readRepetition reading 0 none rest
  | '+' => readRepetition reading 1 none rest
  | '\x7b' => do
      let (least, most, rest) ← readCounts flags rest
      readRepetition reading least most (skipSpace flags rest)
  | '\\' => do
      let (piece, rest) ← readEscape flags rest
      let regex ←
        match piece with
        | .char char => some (.one (foldCase flags (.single char)))
        | .set set => oneOf? flags set
        | .look condition => some (.look condition)
      return (reading.pushLeaf regex, rest)
  | '.' => (dot? flags).map fun regex => (reading.pushLeaf regex, rest)
  | '^' => some (reading.pushLeaf (.look (caret flags)), rest)
  | '$' => some (reading.pushLeaf (.look (dollar flags)), rest)
  | char => some (reading.pushLeaf (.one (foldCase flags (.single char))), rest)

/-- Reads at most `room` pieces of an expression. -/
def readAll : (room : Nat) → Reading → Source → Option Reading
  | 0, _, _ => none
  | room + 1, reading, source =>
      match skipSpace reading.flags source with
      | [] => some reading
      | char :: rest => do
          let (reading, rest) ← readStep reading char rest
          readAll room reading rest

/-- How deep parts may be nested. -/
def mostHeight : Nat := 250

/-- Reads a regular expression, `none` if the text is not one. -/
def parse? (text : String) : Option Regex := do
  let reading ← readAll (text.length + 1) Reading.start text.toList
  if reading.frames.isEmpty then
    let whole := reading.level.close
    if whole.height ≤ mostHeight ∧ whole.regex.isSmall then some whole.regex else none
  else none

end Regex

end TagOrganizer
