import Mathlib
import TagOrganizer.Proofs.Regex.Steps

/-!
# Patterns in parentheses

A pattern is read inside a group that is opened before it and closed behind it. Steps are the same
inside further open groups (`readStep_within`), unless a parenthesis closes one of them. A run over
a pattern that is a regular expression on its own therefore goes on with what is written behind the
pattern, or with nothing if the pattern ends in a comment (`readAll_within_of_eq_some`); and a run
over another one gets to the end only where a parenthesis of the pattern closes the group around it
(`strays_of_readAll_within`). What is read of a pattern with anchors around it is then known
(`written_anchored_iff`, `written_or_strays`).
-/

namespace TagOrganizer

namespace Regex

/-- A reading inside further open groups. -/
def Reading.within (reading : Reading) (below : List Frame) : Reading :=
  { reading with frames := reading.frames ++ below }

/-- What has been read and what is left, inside further open groups. -/
def within (below : List Frame) (read : Reading × Source) : Reading × Source :=
  (read.1.within below, read.2)

variable {comment : Prop} {tail first second : Source} {below : List Frame}

section Within

variable {reading : Reading} {rest : Source}

theorem repeatLast?_within {least : Nat} {most : Option Nat} {marked : Bool} :
    (reading.within below).repeatLast? least most marked =
      (reading.repeatLast? least most marked).map (·.within below) := by
  rw [Reading.repeatLast?.eq_def, Reading.repeatLast?.eq_def]
  simp only [Reading.within]
  split
  · rfl
  · split <;> rfl

theorem readRepetition_within {least : Nat} {most : Option Nat} :
    readRepetition (reading.within below) least most rest =
      (readRepetition reading least most rest).map (within below) := by
  rw [readRepetition.eq_def, readRepetition.eq_def]
  split
  · rw [repeatLast?_within, Option.map_map, Option.map_map]
    rfl
  · rw [repeatLast?_within, Option.map_map, Option.map_map]
    rfl

theorem withFlags?_within {read : Flags × List Char × Source} :
    withFlags? (reading.within below) read = (withFlags? reading read).map (within below) := by
  rw [withFlags?.eq_def, withFlags?.eq_def]
  split
  · split <;> rfl
  · rfl

theorem readMarked_within :
    readMarked (reading.within below) rest = (readMarked reading rest).map (within below) := by
  rw [readMarked, readMarked]
  split
  · rfl
  · split
    · rw [Option.map_bind]
      rfl
    · rw [Option.map_bind]
      congr 1
      funext read
      exact withFlags?_within

theorem readOpening_within :
    readOpening (reading.within below) rest =
      (readOpening reading rest).map (within below) := by
  by_cases marked : ∃ others, skipSpace reading.flags rest = '?' :: others
  · rcases marked with ⟨others, begins⟩
    have begins' : skipSpace (reading.within below).flags rest = '?' :: others := begins
    rw [readOpening_marked begins, readOpening_marked begins']
    exact readMarked_within
  · have plain := not_exists.1 marked
    have plain' : ∀ others, skipSpace (reading.within below).flags rest ≠ '?' :: others := plain
    rw [readOpening_plain plain, readOpening_plain plain']
    rfl

theorem withSet?_within {read : Nested × Source} :
    withSet? (reading.within below) read = (withSet? reading read).map (within below) := by
  rw [withSet?, withSet?, Option.map_map]
  rfl

theorem withPiece?_within {read : Piece × Source} :
    withPiece? (reading.within below) read = (withPiece? reading read).map (within below) := by
  rw [withPiece?, withPiece?, Option.map_map]
  rfl

theorem close?_within (inside : reading.frames ≠ []) :
    (reading.within below).close? = reading.close?.map (·.within below) := by
  rcases reading with ⟨flags, level, frames, groups, names⟩
  cases frames with
  | nil => exact absurd rfl inside
  | cons frame frames => rfl

/-- Further open groups make a difference only where a parenthesis closes one of them. -/
theorem readStep_within (char : Char) (inside : char = ')' → reading.frames ≠ []) :
    readStep (reading.within below) char rest =
      (readStep reading char rest).map (within below) := by
  by_cases opens : char = '('
  · subst opens
    rw [readStep_open, readStep_open]
    exact readOpening_within
  by_cases set : char = '['
  · subst set
    rw [readStep_set, readStep_set, Option.map_bind]
    congr 1
    funext read
    exact withSet?_within
  by_cases counts : char = '\x7b'
  · subst counts
    rw [readStep_counts, readStep_counts, Option.map_bind]
    congr 1
    funext read
    exact readRepetition_within
  by_cases escape : char = '\\'
  · subst escape
    rw [readStep_escape, readStep_escape, Option.map_bind]
    congr 1
    funext read
    exact withPiece?_within
  by_cases optional : char = '?'
  · subst optional
    exact readRepetition_within
  by_cases star : char = '*'
  · subst star
    exact readRepetition_within
  by_cases plus : char = '+'
  · subst plus
    exact readRepetition_within
  by_cases closes : char = ')'
  · subst closes
    have closed : (reading.within below).close? = reading.close?.map (·.within below) :=
      close?_within (inside rfl)
    simp only [readStep, closed, Option.map_map]
    rfl
  by_cases branch : char = '|'
  · subst branch
    rfl
  by_cases dot : char = '.'
  · subst dot
    simp only [readStep, Option.map_map]
    rfl
  by_cases start : char = '^'
  · subst start
    rfl
  by_cases stop : char = '$'
  · subst stop
    rfl
  · simp only [readStep, Option.map_some]
    rfl

end Within

/-! ### Runs -/

/-- Whether a parenthesis that closes nothing comes up where a source is read. -/
inductive Strays : Reading → Source → Prop where
  | here {reading : Reading} {source rest : Source}
      (closes : skipSpace reading.flags source = ')' :: rest) (outside : reading.frames = []) :
      Strays reading source
  | later {reading next : Reading} {source rest others : Source} {char : Char}
      (begins : skipSpace reading.flags source = char :: rest)
      (step : readStep reading char rest = some (next, others)) (strays : Strays next others) :
      Strays reading source

section Runs

variable {reading ended : Reading} {room room' : Nat} {source rest : Source} {char : Char}

theorem readAll_ended (none : skipSpace reading.flags source = []) :
    readAll (room + 1) reading source = some reading := by
  rw [readAll, none]

theorem readAll_step (begins : skipSpace reading.flags source = char :: rest) :
    readAll (room + 1) reading source =
      (readStep reading char rest).bind fun read => readAll room read.1 read.2 := by
  rw [readAll, begins]
  rfl

/-- Reading goes on from what follows blanks and comments. -/
theorem readAll_eq_of_skipSpace_eq
    (same : skipSpace reading.flags first = skipSpace reading.flags second) :
    readAll (room + 1) reading first = readAll (room + 1) reading second := by
  rw [readAll, readAll, same]

theorem isClosing_paren : IsClosing [')'] :=
  ⟨[], rfl, fun _ among => nomatch among⟩

theorem length_le_of_readStep {next : Reading} {others : Source}
    (step : readStep reading char rest = some (next, others)) : others.length ≤ rest.length := by
  have tracks := tracks_readStep isClosing_paren reading char (.shown rest fun _ => trivial)
  rw [step] at tracks
  generalize readStep reading char (rest ++ [')']) = result at tracks
  cases tracks with
  | alike alike => exact Nat.le_of_lt_succ alike.2.2

/--
A run over a text goes on with what is behind the text where the text has been read, whatever groups
have been open before; or with nothing, where a comment has swallowed it.
-/
theorem readAll_within_of_eq_some (closing : IsClosing tail)
    (follows : Follows comment tail first second)
    (read : readAll room reading first = some ended) :
    ∃ left, (left = tail ∨ left = [] ∧ comment) ∧ ∀ more below, second.length < more →
      ∃ enough, left.length < enough ∧ readAll more (reading.within below) second =
        readAll enough (ended.within below) left := by
  induction room generalizing reading first second with
  | zero => cases read
  | succ room ih =>
      have shorter := length_skipSpace_le reading.flags second
      have spaced := follows.skipSpace closing reading.flags
      cases begins : skipSpace reading.flags first with
      | nil =>
          rw [readAll_ended begins] at read
          have same := Option.some.inj read
          subst same
          rw [begins] at spaced
          -- What is behind the text is left, whether or not blanks have been skipped before it.
          have settled : skipSpace reading.flags (skipSpace reading.flags second) =
              skipSpace reading.flags second := by
            rcases spaced.of_nil with same | ⟨same, -⟩ <;> rw [same]
            · exact closing.skipSpace _
            · exact skipSpace_nil
          refine ⟨skipSpace reading.flags second, spaced.of_nil, fun more below fits => ?_⟩
          cases more with
          | zero => exact absurd fits (Nat.not_lt_zero _)
          | succ more =>
              exact ⟨more + 1, by omega, readAll_eq_of_skipSpace_eq settled.symm⟩
      | cons char rest =>
          rw [begins] at spaced
          rcases spaced.of_cons with ⟨behind, begins', goesOn⟩
          rw [readAll_step begins] at read
          rw [begins', List.length_cons] at shorter
          rcases Option.bind_eq_some_iff.1 read with ⟨⟨next, others⟩, step, further⟩
          have inside : char = ')' → reading.frames ≠ [] := by
            rintro rfl outside
            simp [readStep, Reading.close?, outside] at step
          have tracks := tracks_readStep closing reading char goesOn
          generalize step' : readStep reading char behind = result at tracks
          rw [step] at tracks
          cases tracks with
          | @alike _ read' alike =>
              rcases read' with ⟨next', others'⟩
              rcases alike with ⟨rfl, follows', short⟩
              have less := length_le_of_readStep step'
              rcases ih follows' further with ⟨left, which, goesThere⟩
              refine ⟨left, which, fun more below fits => ?_⟩
              cases more with
              | zero => exact absurd fits (Nat.not_lt_zero _)
              | succ more =>
                  have begins'' : skipSpace (reading.within below).flags second = char :: behind :=
                    begins'
                  rw [readAll_step begins'', readStep_within char inside, step']
                  exact goesThere more below (Nat.lt_of_le_of_lt less (by omega))

/-- Anchors leave the groups open that are open before them. -/
theorem frames_of_readAll_anchors (all : ∀ char ∈ source, char = '$')
    (read : readAll room reading source = some ended) : ended.frames = reading.frames := by
  induction source generalizing room reading with
  | nil =>
      cases room with
      | zero => cases read
      | succ room =>
          rw [readAll_ended skipSpace_nil] at read
          cases read
          rfl
  | cons char rest ih =>
      cases room with
      | zero => cases read
      | succ room =>
          cases all char (.head _)
          have begins : skipSpace reading.flags ('$' :: rest) = '$' :: rest :=
            skipSpace_other (by decide) (by decide)
          rw [readAll_step begins] at read
          have further : readAll room (reading.pushLeaf (.look (dollar reading.flags))) rest =
              some ended := read
          have same := ih (fun char among => all char (.tail _ among)) further
          exact same

theorem readCount_closing (closing : IsClosing tail) (flags : Flags) :
    readCount flags tail = none := by
  rcases closing with ⟨anchors, rfl, -⟩
  have noBlank : (')' :: anchors).dropWhile Text.isBlank = ')' :: anchors :=
    List.dropWhile_cons_of_neg (by decide)
  rw [readCount, noBlank, go_other (by decide)]
  rfl

/-- What has been read too far leaves the groups open that are open before it. -/
theorem frames_of_readAll_overrun (closing : IsClosing tail) {next : Reading}
    (overrun : Overrun reading tail (next, rest))
    (read : readAll room (next.within below) rest = some ended) :
    ended.frames = reading.frames ++ below := by
  cases overrun with
  | anchors frames all => rw [frames_of_readAll_anchors all read, ← frames]; rfl
  | @brace _ rest frames bare =>
      cases room with
      | zero => cases read
      | succ room =>
          have begins : skipSpace (next.within below).flags ('\x7b' :: rest) = '\x7b' :: rest :=
            skipSpace_other (by decide) (by decide)
          have none : readCounts (next.within below).flags rest = none := by
            have bare' : skipSpace (next.within below).flags rest = tail := bare
            rw [readCounts_eq, bare', readCount_closing closing]
            rfl
          rw [readAll_step begins, readStep_counts, none] at read
          cases read

/-- Who reads a text inside an open group to its end reads the text on its own, or strays. -/
theorem strays_of_readAll_within (closing : IsClosing tail) (open_ : below ≠ [])
    (follows : Follows comment tail first second)
    (read : readAll room' (reading.within below) second = some ended)
    (closed : ended.frames = []) (enough : first.length < room)
    (unread : ∀ ended, readAll room reading first = some ended → ended.frames ≠ []) :
    Strays reading first := by
  induction room' generalizing room reading first second with
  | zero => cases read
  | succ room' ih =>
      cases room with
      | zero => exact absurd enough (Nat.not_lt_zero _)
      | succ room =>
          rcases (follows.skipSpace closing reading.flags).head closing with ⟨none, none'⟩ |
            ⟨none, begins, anchors, isTail, all⟩ | ⟨char, rest, behind, begins, begins', goesOn⟩
          · have none'' : skipSpace (reading.within below).flags second = [] := none'
            rw [readAll_ended none''] at read
            cases read
            exact absurd (List.append_eq_nil_iff.1 closed).2 open_
          · -- The parenthesis behind the text closes a group of the text.
            have inside := unread reading (readAll_ended none)
            have begins' : skipSpace (reading.within below).flags second = ')' :: anchors :=
              begins.trans isTail
            rw [readAll_step begins', readStep_within ')' fun _ => inside] at read
            rcases reading with ⟨flags, level, frames, groups, names⟩
            cases frames with
            | nil => exact absurd rfl inside
            | cons frame frames =>
                have frames := frames_of_readAll_anchors all read
                rw [closed] at frames
                exact absurd (List.append_eq_nil_iff.1 frames.symm).2 open_
          · by_cases stray : char = ')' ∧ reading.frames = []
            · rcases stray with ⟨rfl, outside⟩
              exact .here begins outside
            · have inside : char = ')' → reading.frames ≠ [] := fun closes outside =>
                stray ⟨closes, outside⟩
              have begins'' : skipSpace (reading.within below).flags second = char :: behind :=
                begins'
              rw [readAll_step begins'', readStep_within char inside] at read
              have shorter := length_skipSpace_le reading.flags first
              rw [begins, List.length_cons] at shorter
              have tracks := tracks_readStep closing reading char goesOn
              generalize step : readStep reading char rest = result,
                step' : readStep reading char behind = result' at tracks read
              cases tracks with
              | failed => cases read
              | @late overrun late =>
                  -- A piece that takes up the parenthesis leaves the group around the text open.
                  rcases overrun with ⟨next, others⟩
                  have frames := frames_of_readAll_overrun closing late read
                  rw [closed] at frames
                  exact absurd (List.append_eq_nil_iff.1 frames.symm).2 open_
              | @alike here there alike =>
                  rcases here with ⟨next, others⟩
                  rcases there with ⟨next', others'⟩
                  rcases alike with ⟨rfl, follows', short⟩
                  have fits : others.length < room := Nat.lt_of_lt_of_le short (by omega)
                  have still : ∀ ended, readAll room next others = some ended →
                      ended.frames ≠ [] := by
                    intro ended further
                    refine unread ended ?_
                    rw [readAll_step begins, step]
                    exact further
                  exact .later begins step (ih follows' read fits still)

end Runs

/-! ### Patterns with anchors around them -/

/-- What a source says if it is a regular expression, whatever its size. -/
def Written (source : Source) (part : Part) : Prop :=
  ∃ ended, readAll (source.length + 1) Reading.start source = some ended ∧ ended.frames = [] ∧
    ended.level.close = part

/-- Whether an expression is not too large. -/
def Part.Fits (part : Part) : Prop :=
  part.height ≤ mostHeight ∧ part.regex.isSmall = true

/-- A text is a regular expression iff it says something that is not too large. -/
theorem parse?_eq_some_iff {text : String} {regex : Regex} :
    parse? text = some regex ↔
      ∃ part, Written text.toList part ∧ part.Fits ∧ part.regex = regex := by
  have length : text.length = text.toList.length := text.length_toList.symm
  constructor
  · intro parsed
    rw [parse?, length] at parsed
    rcases Option.bind_eq_some_iff.1 parsed with ⟨ended, read, parsed⟩
    split at parsed
    · rename_i closed
      dsimp only at parsed
      split at parsed
      · rename_i fits
        exact ⟨_, ⟨ended, read, List.isEmpty_iff.1 closed, rfl⟩, fits, Option.some.inj parsed⟩
      · cases parsed
    · cases parsed
  · rintro ⟨part, ⟨ended, read, closed, rfl⟩, fits, rfl⟩
    rw [parse?, length, read]
    have fits' : ended.level.close.height ≤ mostHeight ∧
      ended.level.close.regex.isSmall = true := fits
    simp [closed, fits']

/--
Whether a source keeps what is written behind it from being read, as one does that ends in a
comment.
-/
def Hides (source tail : Source) : Prop :=
  ∃ part, Written (source ++ tail) part

/-- The group around a pattern: before it, the beginning of the text has to be. -/
def anchored : Frame :=
  ⟨Level.start.push ⟨.look .textStart, 0, true⟩, Flags.initial, .plain⟩

/-- The reading after the group around a pattern has been closed. -/
def Reading.closeIn (reading : Reading) (frame : Frame) : Reading :=
  { reading with
    flags := frame.flags
    level := frame.outer.push
      ⟨frame.grouping.wrap reading.level.close.regex, 1 + reading.level.close.height, true⟩
    frames := [] }

/-- A pattern that is to begin at the beginning of a text. -/
def Part.leading (part : Part) : Part :=
  ⟨Regex.sequence [.look .textStart, part.regex], 2 + part.height, true⟩

/-- A pattern that is to go from the beginning of a text to its end. -/
def Part.whole (part : Part) : Part :=
  ⟨Regex.sequence [.look .textStart, part.regex, .look .textEnd], 2 + part.height, true⟩

section Anchors

variable {source : Source} {part framed : Part} {ended : Reading} {room : Nat}

/-- What a source says behind the opening of a group that begins at the beginning of a text. -/
theorem written_anchored_def :
    Written ('^' :: '(' :: '?' :: ':' :: source) framed ↔
      ∃ ended, readAll (source.length + 3) (Reading.start.within [anchored]) source = some ended ∧
        ended.frames = [] ∧ ended.level.close = framed := Iff.rfl

theorem readAll_paren {frame : Frame} {anchors : Source} (closed : ended.frames = []) :
    readAll (room + 1) (ended.within [frame]) (')' :: anchors) =
      readAll room (ended.closeIn frame) anchors := by
  have begins : skipSpace (ended.within [frame]).flags (')' :: anchors) = ')' :: anchors :=
    skipSpace_other (by decide) (by decide)
  rw [readAll_step begins]
  rcases ended with ⟨flags, level, frames, groups, names⟩
  cases closed
  rfl

/-- A level in which an anchored part has been read. -/
def Level.around (part : Part) : Level :=
  anchored.outer.push ⟨part.regex, 1 + part.height, true⟩

theorem close_around : (Level.around part).close = part.leading := by
  have height : 1 + max (max 0 (1 + part.height)) 0 = 2 + part.height := by omega
  rw [Part.leading, ← height]
  rfl

theorem close_around_push :
    ((Level.around part).push ⟨.look .textEnd, 0, true⟩).close = part.whole := by
  have height : 1 + max (max (max 0 0) (1 + part.height)) 0 = 2 + part.height := by omega
  rw [Part.whole, ← height]
  rfl

/--
Behind a pattern, either nothing is read that is written there, or it is read in the same way
whatever groups are open.
-/
theorem hides_or_readAll (closing : IsClosing tail) (written : Written source part) :
    ∃ ended : Reading, ended.frames = [] ∧ ended.level.close = part ∧ ∃ left,
      (Hides source tail ∧ left = [] ∧ '#' ∈ source ∨ ¬ Hides source tail ∧ left = tail) ∧
        ∀ below, ∃ enough, left.length < enough ∧
          readAll ((source ++ tail).length + 3) (Reading.start.within below) (source ++ tail) =
            readAll enough (ended.within below) left := by
  rcases written with ⟨ended, read, closed, isPart⟩
  rcases readAll_within_of_eq_some closing (.shown source id) read with ⟨left, which, goesThere⟩
  refine ⟨ended, closed, isPart, left, ?_, fun below => goesThere _ below (by omega)⟩
  rcases goesThere ((source ++ tail).length + 1) [] (Nat.lt_succ_self _) with ⟨enough, fits, same⟩
  have alone : ended.within [] = ended := by simp [Reading.within]
  rw [alone] at same
  change readAll _ Reading.start _ = _ at same
  cases enough with
  | zero => exact absurd fits (Nat.not_lt_zero _)
  | succ enough =>
      rcases which with rfl | ⟨rfl, marked⟩
      · right
        refine ⟨?_, rfl⟩
        rintro ⟨other, last, readOther, -⟩
        rcases closing with ⟨anchors, rfl, -⟩
        have begins : skipSpace ended.flags (')' :: anchors) = ')' :: anchors :=
          skipSpace_other (by decide) (by decide)
        have stuck : readStep ended ')' anchors = none := by
          simp [readStep, Reading.close?, closed]
        rw [same, readAll_step begins, stuck] at readOther
        cases readOther
      · left
        exact ⟨⟨part, ended, same.trans (readAll_ended skipSpace_nil), closed, isPart⟩, rfl, marked⟩

/-- Only a pattern that holds the sign of a comment keeps what is behind it from being read. -/
theorem Written.mem_of_hides (closing : IsClosing tail) (written : Written source part)
    (hides : Hides source tail) : '#' ∈ source := by
  rcases hides_or_readAll closing written with ⟨-, -, -, -, ⟨-, -, marked⟩ | ⟨shows, -⟩, -⟩
  · exact marked
  · exact absurd hides shows

/-- What the reading of a pattern goes over into where the group around the pattern is closed. -/
def Becomes (tail : Source) (part framed : Part) : Prop :=
  ∀ (ended : Reading) (enough : Nat), ended.frames = [] → ended.level.close = part →
    tail.length < enough → ∃ final, readAll enough (ended.within [anchored]) tail = some final ∧
      final.frames = [] ∧ final.level.close = framed

theorem becomes_leading : Becomes [')'] part part.leading := by
  rintro ended enough closed rfl fits
  rcases Nat.exists_eq_add_of_lt fits with ⟨room, rfl⟩
  refine ⟨ended.closeIn anchored, ?_, rfl, close_around⟩
  rw [readAll_paren closed, List.length_singleton, Nat.add_comm]
  exact readAll_ended skipSpace_nil

theorem becomes_whole : Becomes [')', '$'] part part.whole := by
  rintro ended enough closed rfl fits
  rcases Nat.exists_eq_add_of_lt fits with ⟨room, rfl⟩
  refine ⟨(ended.closeIn anchored).pushLeaf (.look .textEnd), ?_, rfl, close_around_push⟩
  have length : [')', '$'].length + room = room + 1 + 1 := Nat.add_comm _ _
  have begins : skipSpace (ended.closeIn anchored).flags ['$'] = ['$'] :=
    skipSpace_other (by decide) (by decide)
  have step : readStep (ended.closeIn anchored) '$' [] =
      some ((ended.closeIn anchored).pushLeaf (.look .textEnd), []) := rfl
  rw [readAll_paren closed, length, readAll_step begins, step, Option.bind_some]
  exact readAll_ended skipSpace_nil

/-- A pattern is written with its anchors iff they are read, and then it is what it is to be. -/
theorem written_anchored_iff {anchoredPart : Part} (closing : IsClosing tail)
    (becomes : Becomes tail part anchoredPart) (written : Written source part) :
    Written ('^' :: '(' :: '?' :: ':' :: (source ++ tail)) framed ↔
      ¬ Hides source tail ∧ framed = anchoredPart := by
  rcases hides_or_readAll closing written with ⟨ended, closed, isPart, left, which, goesThere⟩
  rcases goesThere [anchored] with ⟨enough, fits, same⟩
  rw [written_anchored_def, same]
  rcases which with ⟨hides, rfl, -⟩ | ⟨shows, rfl⟩
  · constructor
    · rintro ⟨final, read, outside, -⟩
      cases enough with
      | zero => cases read
      | succ enough =>
          rw [readAll_ended skipSpace_nil] at read
          cases read
          exact absurd (List.append_eq_nil_iff.1 outside).2 (List.cons_ne_nil _ _)
    · exact fun shows => absurd hides shows.1
  · rcases becomes ended enough closed isPart fits with ⟨final, read, outside, isFramed⟩
    rw [read]
    constructor
    · rintro ⟨other, sameFinal, -, rfl⟩
      cases sameFinal
      exact ⟨shows, isFramed⟩
    · rintro ⟨-, rfl⟩
      exact ⟨final, rfl, outside, isFramed⟩

/-- What is a regular expression with anchors around it is one on its own, or strays. -/
theorem written_or_strays (closing : IsClosing tail)
    (written : Written ('^' :: '(' :: '?' :: ':' :: (source ++ tail)) framed) :
    (∃ part, Written source part) ∨ Strays Reading.start source := by
  rcases written_anchored_def.1 written with ⟨final, read, outside, -⟩
  by_cases alone : ∃ part, Written source part
  · exact .inl alone
  · right
    have unread : ∀ ended, readAll (source.length + 1) Reading.start source = some ended →
        ended.frames ≠ [] := fun ended read closed => alone ⟨_, ended, read, closed, rfl⟩
    exact strays_of_readAll_within closing (List.cons_ne_nil _ _) (.shown source id) read outside
      (Nat.lt_succ_self _) unread

end Anchors

end Regex

end TagOrganizer
