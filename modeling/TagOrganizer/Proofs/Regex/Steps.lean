import Mathlib
import TagOrganizer.Proofs.Regex.Sets

/-!
# Steps of reading that are followed by a closing parenthesis

Reading the piece of an expression that begins with some character gives the same with a closing
parenthesis behind the source, or the piece takes up the parenthesis (`tracks_readStep`). What is
left then closes no group (`Overrun`).
-/

namespace TagOrganizer

namespace Regex

variable {comment : Prop} {tail first second : Source} {flags : Flags}

/-! ### Groups -/

theorem tracks_readName (closing : IsClosing tail) {names : List String}
    (follows : Follows comment tail first second) :
    Tracks (Alike comment tail first.length) Never (readName names first)
      (readName names second) := by
  cases follows with
  | hidden => exact .failed
  | shown _ marked =>
      rcases dropWhile_append_closing closing '>' (by decide) (by decide) first with
        ⟨none, none'⟩ | ⟨rest, here, here', name⟩
      · simp only [readName, none, none']
        exact .failed
      · have shorter := (first.dropWhile_suffix (· != '>')).length_le
        rw [here, List.length_cons] at shorter
        simp only [readName, here, here', name]
        split
        · exact .failed
        · split
          · exact .same (.shown rest fun among => marked (mem_of_mem_dropped here among)) shorter
          · exact .failed

/-- Whether two results of reading switches are the same, each with something left. -/
def AlikeFlags (comment : Prop) (tail : Source) (bound : Nat)
    (read behind : Flags × List Char × Source) : Prop :=
  read.1 = behind.1 ∧ read.2.1 = behind.2.1 ∧ ∃ char rest others, read.2.2 = char :: rest ∧
    behind.2.2 = char :: others ∧ Follows comment tail rest others ∧ rest.length < bound

theorem tracks_readFlags (closing : IsClosing tail) {seen : List Char}
    (follows : Follows comment tail first second) :
    Tracks (AlikeFlags comment tail first.length) (fun read => read.2.2 = tail)
      (readFlags flags seen first) (readFlags flags seen second) := by
  cases follows with
  | hidden => exact .failed
  | shown _ marked =>
      induction first generalizing flags seen with
      | nil =>
          rcases closing with ⟨anchors, rfl, -⟩
          simp only [List.nil_append, readFlags]
          split
          · split
            · exact .failed
            · exact .late rfl
          · contradiction
      | cons char rest ih =>
          have further {flags : Flags} {seen : List Char} :
              Tracks (AlikeFlags comment tail (char :: rest).length) (fun read => read.2.2 = tail)
                (readFlags flags seen rest) (readFlags flags seen (rest ++ tail)) := by
            refine (ih fun among => marked (.tail _ among)).mono ?_ fun _ late => late
            rintro read behind
              ⟨sameFlags, sameSeen, next, left, left', begins, begins', goesOn, short⟩
            exact ⟨sameFlags, sameSeen, next, left, left', begins, begins', goesOn,
              Nat.lt_succ_of_lt short⟩
          simp only [List.cons_append, readFlags]
          split
          · split
            · exact .failed
            · exact .alike ⟨rfl, rfl, char, rest, rest ++ tail, rfl, rfl,
                .shown rest fun among => marked (.tail _ among), Nat.lt_succ_self _⟩
          · split
            · exact .failed
            · split
              · exact further
              · cases setFlag? flags char (!seen.contains '-') with
                | none => exact .failed
                | some flags => exact further

/--
What has been read too far in a step: the groups are still open, and nothing but anchors is left, or
a brace that is no repetition.
-/
inductive Overrun (reading : Reading) (tail : Source) : Reading × Source → Prop where
  | anchors {next : Reading} {rest : Source} (frames : next.frames = reading.frames)
      (all : ∀ char ∈ rest, char = '$') : Overrun reading tail (next, rest)
  | brace {next : Reading} {rest : Source} (frames : next.frames = reading.frames)
      (bare : skipSpace next.flags rest = tail) : Overrun reading tail (next, '\x7b' :: rest)

section Opening

variable {reading : Reading} {source rest others : Source}

/-- The reading after switches, for what is left or for what is inside a pair of parentheses. -/
def withFlags? (reading : Reading) (read : Flags × List Char × Source) :
    Option (Reading × Source) :=
  match read.2.2 with
  | ')' :: rest =>
      if read.2.1.isEmpty then none
      else some ({ reading.push ⟨.empty, 0, false⟩ with flags := read.1 }, rest)
  | _ => some (reading.openPlain read.1, read.2.2.drop 1)

/-- Whether a question mark and what is behind it begin a look around. -/
def looksAround (source : Source) : Bool :=
  match source with
  | '=' :: _ => true
  | '!' :: _ => true
  | '<' :: '=' :: _ => true
  | '<' :: '!' :: _ => true
  | _ => false

/-- The name of a group and what is behind it, where a question mark begins a group with a name. -/
def named? (source : Source) : Option Source :=
  match source with
  | 'P' :: '<' :: rest => some rest
  | '<' :: rest => some rest
  | _ => none

/-- What a pair of parentheses makes up that begins with a question mark. -/
def readMarked (reading : Reading) (source : Source) : Option (Reading × Source) :=
  if looksAround source then none
  else
    match named? source with
    | some rest => (readName reading.names rest).bind fun read =>
        some (reading.openGroup (some read.1), read.2)
    | none => (readFlags reading.flags [] source).bind (withFlags? reading)

theorem readOpening_marked (begins : skipSpace reading.flags source = '?' :: rest) :
    readOpening reading source = readMarked reading rest := by
  rw [readOpening]
  simp only [begins]
  split
  -- What looks around, and the longer sign of a name, are seen from their characters alone.
  any_goals
    cases ‹('?' :: rest) = _›
    rfl
  · cases ‹('?' :: rest) = _›
    have noLook : looksAround ('<' :: ‹Source›) = false := by
      rw [looksAround.eq_def]
      split <;> simp_all
    rw [readMarked, noLook]
    rfl
  · cases ‹('?' :: rest) = _›
    have noLook : looksAround rest = false := by
      rw [looksAround.eq_def]
      split <;> simp_all
    have noName : named? rest = none := by
      rw [named?.eq_def]
      split <;> simp_all
    rw [readMarked, noLook, noName]
    rfl
  · exact (‹∀ rest', '?' :: rest = '?' :: rest' → False› rest rfl).elim

theorem readOpening_plain (plain : ∀ rest, skipSpace reading.flags source ≠ '?' :: rest) :
    readOpening reading source =
      some (reading.openGroup none, skipSpace reading.flags source) := by
  rw [readOpening]
  split
  all_goals first | exact absurd ‹_› (plain _) | rfl

theorem looksAround_other {char : Char} (equals : char ≠ '=') (bang : char ≠ '!')
    (angle : char ≠ '<') (rest : Source) : looksAround (char :: rest) = false := by
  simp [looksAround, equals, bang, angle]

theorem looksAround_behind {char : Char} (equals : char ≠ '=') (bang : char ≠ '!')
    (rest : Source) : looksAround ('<' :: char :: rest) = false := by
  simp [looksAround, equals, bang]

theorem looksAround_eq (closing : IsClosing tail) (follows : Follows comment tail first second) :
    looksAround second = looksAround first := by
  rcases follows.head closing with ⟨rfl, rfl⟩ | ⟨rfl, rfl, anchors, rfl, -⟩ |
    ⟨char, rest, behind, rfl, rfl, goesOn⟩
  · rfl
  · rfl
  · by_cases equals : char = '='
    · subst equals
      rfl
    by_cases bang : char = '!'
    · subst bang
      rfl
    by_cases angle : char = '<'
    · subst angle
      rcases goesOn.head closing with ⟨rfl, rfl⟩ | ⟨rfl, rfl, anchors, rfl, -⟩ |
        ⟨next, others, behind, rfl, rfl, -⟩
      · rfl
      · rfl
      · by_cases equals : next = '='
        · subst equals
          rfl
        by_cases bang : next = '!'
        · subst bang
          rfl
        rw [looksAround_behind equals bang, looksAround_behind equals bang]
    · rw [looksAround_other equals bang angle, looksAround_other equals bang angle]

theorem named?_other {char : Char} (letter : char ≠ 'P') (angle : char ≠ '<') (rest : Source) :
    named? (char :: rest) = none := by
  simp [named?, letter, angle]

theorem named?_letter {char : Char} (angle : char ≠ '<') (rest : Source) :
    named? ('P' :: char :: rest) = none := by
  simp [named?, angle]

theorem tracks_named (closing : IsClosing tail) (follows : Follows comment tail first second) :
    Tracks (fun rest behind => Follows comment tail rest behind ∧ rest.length < first.length) Never
      (named? first) (named? second) := by
  rcases follows.head closing with ⟨rfl, rfl⟩ | ⟨rfl, rfl, anchors, rfl, -⟩ |
    ⟨char, rest, behind, rfl, rfl, goesOn⟩
  · exact .failed
  · exact .failed
  · by_cases angle : char = '<'
    · subst angle
      exact .alike ⟨goesOn, Nat.lt_succ_self _⟩
    by_cases letter : char = 'P'
    · subst letter
      rcases goesOn.head closing with ⟨rfl, rfl⟩ | ⟨rfl, rfl, anchors, rfl, -⟩ |
        ⟨next, others, behind, rfl, rfl, further⟩
      · exact .failed
      · exact .failed
      · by_cases angle : next = '<'
        · subst angle
          exact .alike ⟨further, Nat.lt_succ_of_lt (Nat.lt_succ_self _)⟩
        · rw [named?_letter angle, named?_letter angle]
          exact .failed
    · rw [named?_other letter angle, named?_other letter angle]
      exact .failed

theorem withFlags?_colon {seen : List Char} {char : Char} (opens : char ≠ ')') (rest : Source) :
    withFlags? reading (flags, seen, char :: rest) = some (reading.openPlain flags, rest) := by
  simp [withFlags?, opens]

theorem tracks_withFlags {bound : Nat} (read behind : Flags × List Char × Source)
    (alike : AlikeFlags comment tail bound read behind) :
    Tracks (Alike comment tail bound) (Overrun reading tail) (withFlags? reading read)
      (withFlags? reading behind) := by
  rcases read with ⟨flags, seen, left⟩
  rcases behind with ⟨flags', seen', left'⟩
  rcases alike with ⟨rfl, rfl, char, rest, others, rfl, rfl, goesOn, short⟩
  by_cases closes : char = ')'
  · subst closes
    rw [withFlags?, withFlags?]
    simp only
    split
    · exact .failed
    · exact .same goesOn short
  · rw [withFlags?_colon closes, withFlags?_colon closes]
    exact .same goesOn short

theorem lags_withFlags (closing : IsClosing tail) {bound : Nat}
    (read : Flags × List Char × Source) (late : read.2.2 = tail) :
    Tracks (Alike comment tail bound) (Overrun reading tail) none (withFlags? reading read) := by
  rcases read with ⟨flags, seen, left⟩
  rcases closing with ⟨anchors, rfl, all⟩
  cases late
  rw [withFlags?]
  simp only
  split
  · exact .failed
  · exact .late (.anchors rfl all)

theorem tracks_readMarked (closing : IsClosing tail) (follows : Follows comment tail first second) :
    Tracks (Alike comment tail first.length) (Overrun reading tail) (readMarked reading first)
      (readMarked reading second) := by
  rw [readMarked, readMarked, looksAround_eq closing follows]
  split
  · exact .failed
  · have name := tracks_named closing follows
    generalize named? first = rest, named? second = behind at name
    cases name with
    | late never => exact never.elim
    | alike goesOn =>
        refine (tracks_readName closing goesOn.1).bind_never ?_
        rintro ⟨name, left⟩ ⟨-, left'⟩ ⟨rfl, further, short⟩
        exact .same further (Nat.lt_trans short goesOn.2)
    | failed =>
        exact (tracks_readFlags closing follows).bind tracks_withFlags (lags_withFlags closing)

theorem tracks_readOpening (closing : IsClosing tail)
    (follows : Follows comment tail first second) :
    Tracks (Alike comment tail (first.length + 1)) (Overrun reading tail)
      (readOpening reading first) (readOpening reading second) := by
  have shorter := length_skipSpace_le reading.flags first
  have spaced := follows.skipSpace closing reading.flags
  by_cases marked : ∃ rest, skipSpace reading.flags first = '?' :: rest
  · rcases marked with ⟨rest, begins⟩
    rw [begins] at spaced shorter
    rcases spaced.of_cons with ⟨behind, begins', goesOn⟩
    rw [readOpening_marked begins, readOpening_marked begins']
    rw [List.length_cons] at shorter
    exact (tracks_readMarked closing goesOn).widen (by omega)
  · have plain := not_exists.1 marked
    rw [readOpening_plain plain, readOpening_plain (spaced.ne_cons closing (by decide) plain)]
    exact .same spaced (by omega)

end Opening

/-! ### Repetitions -/

theorem Follows.dropBlanks (closing : IsClosing tail)
    (follows : Follows comment tail first second) :
    Follows comment tail (first.dropWhile Text.isBlank) (second.dropWhile Text.isBlank) := by
  cases follows with
  | hidden marked => exact .hidden marked
  | shown _ marked =>
      induction first with
      | nil =>
          rcases closing with ⟨anchors, rfl, -⟩
          exact .shown [] marked
      | cons char rest ih =>
          cases isBlank : Text.isBlank char with
          | true => simpa [List.dropWhile, isBlank] using ih fun among => marked (.tail _ among)
          | false =>
              simp only [List.cons_append, List.dropWhile, isBlank]
              exact .shown (char :: rest) marked

theorem length_dropBlanks_le (source : Source) :
    (source.dropWhile Text.isBlank).length ≤ source.length :=
  (source.dropWhile_suffix Text.isBlank).length_le

theorem tracks_finish (closing : IsClosing tail) {value : Option Nat}
    (follows : Follows comment tail first second) :
    Tracks (Alike comment tail (first.length + 1)) Never (readCount.finish flags value first)
      (readCount.finish flags value second) := by
  cases value with
  | none => exact .failed
  | some value =>
      have shorter := length_dropBlanks_le first
      have shorter' := length_skipSpace_le flags (first.dropWhile Text.isBlank)
      simp only [readCount.finish]
      split
      · exact .same ((follows.dropBlanks closing).skipSpace closing flags) (by omega)
      · exact .failed

theorem go_ended {room : Nat} {value : Option Nat} :
    readCount.go flags room value [] = readCount.finish flags value [] := by
  cases room <;> rfl

theorem go_other {room : Nat} {value : Option Nat} {char : Char} {rest : Source}
    (other : char.isDigit = false) :
    readCount.go flags room value (char :: rest) =
      readCount.finish flags value (char :: rest) := by
  cases room with
  | zero => rfl
  | succ room => simp [readCount.go, other]

theorem tracks_go_ended (closing : IsClosing tail) {room room' : Nat} {value : Option Nat}
    (follows : Follows comment tail [] second) :
    Tracks (Alike comment tail 1) Never (readCount.go flags room value [])
      (readCount.go flags room' value second) := by
  have finish : Tracks (Alike comment tail 1) Never (readCount.finish flags value [])
      (readCount.finish flags value second) := tracks_finish closing follows
  rcases follows.head closing with ⟨-, rfl⟩ | ⟨-, rfl, anchors, rfl, -⟩ |
    ⟨char, rest, behind, nothing, -⟩
  · rwa [go_ended, go_ended]
  · rwa [go_ended, go_other (by decide)]
  · cases nothing

theorem tracks_go (closing : IsClosing tail) {room room' : Nat} {value : Option Nat}
    (enough : first.length ≤ room) (enough' : second.length ≤ room')
    (follows : Follows comment tail first second) :
    Tracks (Alike comment tail (first.length + 1)) Never (readCount.go flags room value first)
      (readCount.go flags room' value second) := by
  induction room generalizing room' value first second with
  | zero =>
      cases List.length_eq_zero_iff.1 (Nat.le_zero.1 enough)
      exact tracks_go_ended closing follows
  | succ room ih =>
      cases first with
      | nil => exact tracks_go_ended closing follows
      | cons char rest =>
          rcases follows.of_cons with ⟨behind, rfl, goesOn⟩
          cases digit : char.isDigit with
          | false =>
              rw [go_other digit, go_other digit]
              exact tracks_finish closing follows
          | true =>
              cases room' with
              | zero => exact absurd enough' (Nat.not_succ_le_zero _)
              | succ room' =>
                  have shorter := length_skipSpace_le flags rest
                  have shorter' := length_skipSpace_le flags behind
                  rw [List.length_cons] at enough enough'
                  simp only [readCount.go, digit, if_true]
                  exact (ih (by omega) (by omega) (goesOn.skipSpace closing flags)).widen
                    (by rw [List.length_cons]; omega)

theorem tracks_readCount (closing : IsClosing tail) (follows : Follows comment tail first second) :
    Tracks (Alike comment tail (first.length + 1)) Never (readCount flags first)
      (readCount flags second) := by
  have shorter := length_dropBlanks_le first
  have shorter' := length_dropBlanks_le second
  exact (tracks_go closing shorter shorter' (follows.dropBlanks closing)).widen (by omega)

/-- Whether two results of reading counts are the same. -/
def AlikeCounts (comment : Prop) (tail : Source) (bound : Nat)
    (read behind : Nat × Option Nat × Source) : Prop :=
  read.1 = behind.1 ∧ Alike comment tail bound read.2 behind.2

/-- The counts after the larger one has been read. -/
def afterMost? (least : Nat) (read : Nat × Source) : Option (Nat × Option Nat × Source) :=
  match read.2 with
  | '\x7d' :: rest => if least ≤ read.1 then some (least, some read.1, rest) else none
  | _ => none

/-- The counts after the comma. -/
def afterComma? (flags : Flags) (least : Nat) (source : Source) :
    Option (Nat × Option Nat × Source) :=
  match skipSpace flags source with
  | '\x7d' :: rest => some (least, none, rest)
  | rest => (readCount flags rest).bind (afterMost? least)

/-- The counts after the smaller one has been read. -/
def afterLeast? (flags : Flags) (read : Nat × Source) : Option (Nat × Option Nat × Source) :=
  match read.2 with
  | '\x7d' :: rest => some (read.1, some read.1, rest)
  | ',' :: rest => afterComma? flags read.1 rest
  | _ => none

theorem readCounts_eq (source : Source) :
    readCounts flags source =
      (readCount flags (skipSpace flags source)).bind (afterLeast? flags) := by
  rw [readCounts]
  rfl

section Counts

variable {least value : Nat} {source rest : Source} {bound : Nat}

theorem afterMost?_other (other : ∀ rest, source ≠ '\x7d' :: rest) :
    afterMost? least (value, source) = none := by
  rw [afterMost?.eq_def]
  split
  · exact absurd ‹source = _› (other _)
  · rfl

theorem tracks_afterMost (closing : IsClosing tail) (read behind : Nat × Source)
    (alike : Alike comment tail bound read behind) :
    Tracks (AlikeCounts comment tail bound) Never (afterMost? least read)
      (afterMost? least behind) := by
  rcases read with ⟨most, left⟩
  rcases behind with ⟨most', left'⟩
  rcases alike with ⟨rfl, follows, short⟩
  simp only at follows short
  by_cases brace : ∃ rest, left = '\x7d' :: rest
  · rcases brace with ⟨rest, rfl⟩
    rcases follows.of_cons with ⟨others, rfl, goesOn⟩
    rw [afterMost?, afterMost?]
    simp only
    split
    · exact .alike ⟨rfl, rfl, goesOn, Nat.lt_of_succ_lt short⟩
    · exact .failed
  · have other := not_exists.1 brace
    rw [afterMost?_other other, afterMost?_other (follows.ne_cons closing (by decide) other)]
    exact .failed

theorem afterComma?_closed (closed : skipSpace flags source = '\x7d' :: rest) :
    afterComma? flags least source = some (least, none, rest) := by
  rw [afterComma?, closed]
  rfl

theorem afterComma?_open (opened : ∀ rest, skipSpace flags source ≠ '\x7d' :: rest) :
    afterComma? flags least source =
      (readCount flags (skipSpace flags source)).bind (afterMost? least) := by
  rw [afterComma?]
  split
  · exact absurd ‹_› (opened _)
  · rfl

theorem tracks_afterComma (closing : IsClosing tail) (follows : Follows comment tail first second) :
    Tracks (AlikeCounts comment tail (first.length + 1)) Never (afterComma? flags least first)
      (afterComma? flags least second) := by
  have shorter := length_skipSpace_le flags first
  have spaced := follows.skipSpace closing flags
  by_cases brace : ∃ rest, skipSpace flags first = '\x7d' :: rest
  · rcases brace with ⟨rest, closed⟩
    rw [closed] at spaced shorter
    rcases spaced.of_cons with ⟨others, closed', goesOn⟩
    rw [afterComma?_closed closed, afterComma?_closed closed']
    rw [List.length_cons] at shorter
    exact .alike ⟨rfl, rfl, goesOn, by simp only; omega⟩
  · have opened := not_exists.1 brace
    rw [afterComma?_open opened, afterComma?_open (spaced.ne_cons closing (by decide) opened)]
    exact ((tracks_readCount closing spaced).widen (by omega)).bind_never
      (tracks_afterMost closing)

theorem afterLeast?_other (brace : ∀ rest, source ≠ '\x7d' :: rest)
    (comma : ∀ rest, source ≠ ',' :: rest) : afterLeast? flags (value, source) = none := by
  rw [afterLeast?.eq_def]
  split
  · exact absurd ‹source = _› (brace _)
  · exact absurd ‹source = _› (comma _)
  · rfl

theorem tracks_afterLeast (closing : IsClosing tail) (read behind : Nat × Source)
    (alike : Alike comment tail bound read behind) :
    Tracks (AlikeCounts comment tail bound) Never (afterLeast? flags read)
      (afterLeast? flags behind) := by
  rcases read with ⟨least, left⟩
  rcases behind with ⟨least', left'⟩
  rcases alike with ⟨rfl, follows, short⟩
  simp only at follows short
  by_cases brace : ∃ rest, left = '\x7d' :: rest
  · rcases brace with ⟨rest, rfl⟩
    rcases follows.of_cons with ⟨others, rfl, goesOn⟩
    exact .alike ⟨rfl, rfl, goesOn, Nat.lt_of_succ_lt short⟩
  by_cases comma : ∃ rest, left = ',' :: rest
  · rcases comma with ⟨rest, rfl⟩
    rcases follows.of_cons with ⟨others, rfl, goesOn⟩
    rw [afterLeast?, afterLeast?]
    refine (tracks_afterComma closing goesOn).mono ?_ fun _ never => never
    rintro counts counts' ⟨same, goesOn, further, shorter⟩
    exact ⟨same, goesOn, further, Nat.lt_of_lt_of_le shorter (Nat.le_of_lt short)⟩
  · have noBrace := not_exists.1 brace
    have noComma := not_exists.1 comma
    rw [afterLeast?_other noBrace noComma, afterLeast?_other
      (follows.ne_cons closing (by decide) noBrace) (follows.ne_cons closing (by decide) noComma)]
    exact .failed

theorem tracks_readCounts (closing : IsClosing tail) (follows : Follows comment tail first second) :
    Tracks (AlikeCounts comment tail (first.length + 1)) Never (readCounts flags first)
      (readCounts flags second) := by
  have shorter := length_skipSpace_le flags first
  rw [readCounts_eq, readCounts_eq]
  exact ((tracks_readCount closing (follows.skipSpace closing flags)).widen (by omega)).bind_never
    (tracks_afterLeast closing)

end Counts

theorem readRepetition_greedy {reading : Reading} {least : Nat} {most : Option Nat}
    {source : Source} (greedy : ∀ rest, source ≠ '?' :: rest) :
    readRepetition reading least most source =
      (reading.repeatLast? least most false).map fun reading => (reading, source) := by
  rw [readRepetition]
  exact fun rest same => greedy rest same

theorem tracks_readRepetition (closing : IsClosing tail) {reading : Reading} {least : Nat}
    {most : Option Nat} (follows : Follows comment tail first second) :
    Tracks (Alike comment tail (first.length + 1)) (Overrun reading tail)
      (readRepetition reading least most first) (readRepetition reading least most second) := by
  by_cases marked : ∃ rest, first = '?' :: rest
  · rcases marked with ⟨rest, rfl⟩
    rcases follows.of_cons with ⟨others, rfl, goesOn⟩
    rw [readRepetition, readRepetition]
    cases reading.repeatLast? least most true with
    | none => exact .failed
    | some reading => exact .same goesOn (Nat.lt_succ_of_lt (Nat.lt_succ_self _))
  · have greedy := not_exists.1 marked
    rw [readRepetition_greedy greedy,
      readRepetition_greedy (follows.ne_cons closing (by decide) greedy)]
    cases reading.repeatLast? least most false with
    | none => exact .failed
    | some reading => exact .same follows (Nat.lt_succ_self _)

/-! ### Steps -/

section Step

variable {reading : Reading} {rest : Source}

/-- The expression that a piece stands for. -/
def pieceRegex? (flags : Flags) (piece : Piece) : Option Regex :=
  match piece with
  | .char char => some (.one (foldCase flags (.single char)))
  | .set set => oneOf? flags set
  | .look condition => some (.look condition)

/-- The reading after an escape. -/
def withPiece? (reading : Reading) (read : Piece × Source) : Option (Reading × Source) :=
  (pieceRegex? reading.flags read.1).map fun regex => (reading.pushLeaf regex, read.2)

/-- The reading after a set in brackets. -/
def withSet? (reading : Reading) (read : Nested × Source) : Option (Reading × Source) :=
  (oneOf? reading.flags read.1.set).map fun regex =>
    (reading.push ⟨regex, read.1.height, true⟩, read.2)

/-- The reading after the counts of a repetition. -/
def withCounts? (reading : Reading) (read : Nat × Option Nat × Source) :
    Option (Reading × Source) :=
  readRepetition reading read.1 read.2.1 (skipSpace reading.flags read.2.2)

theorem readStep_open : readStep reading '(' rest = readOpening reading rest := rfl

theorem readStep_set :
    readStep reading '[' rest =
      (readSet reading.flags (2 * rest.length + 2) rest).bind (withSet? reading) := by
  rw [readStep]
  congr 1
  funext ⟨inner, rest⟩
  simp only [withSet?]
  cases oneOf? reading.flags inner.set <;> rfl

theorem readStep_counts :
    readStep reading '\x7b' rest = (readCounts reading.flags rest).bind (withCounts? reading) := rfl

theorem readStep_escape :
    readStep reading '\\' rest = (readEscape reading.flags rest).bind (withPiece? reading) := by
  rw [readStep]
  congr 1
  funext ⟨piece, rest⟩
  rw [withPiece?]
  cases piece with
  | char char => rfl
  | look condition => rfl
  | set set =>
      simp only [pieceRegex?]
      cases oneOf? reading.flags set <;> rfl

/--
A step is a group, a set, a repetition or an escape, or it does not depend on what follows the
character.
-/
theorem readStep_cases (reading : Reading) (char : Char) :
    char = '(' ∨ char = '[' ∨ char = '\x7b' ∨ char = '\\' ∨
      (∃ least most, ∀ rest, readStep reading char rest = readRepetition reading least most rest) ∨
      ∃ next : Option Reading,
        ∀ rest, readStep reading char rest = next.map fun next => (next, rest) := by
  by_cases opens : char = '('
  · exact .inl opens
  by_cases set : char = '['
  · exact .inr (.inl set)
  by_cases counts : char = '\x7b'
  · exact .inr (.inr (.inl counts))
  by_cases escape : char = '\\'
  · exact .inr (.inr (.inr (.inl escape)))
  refine .inr (.inr (.inr (.inr ?_)))
  by_cases optional : char = '?'
  · exact .inl ⟨0, some 1, fun rest => by rw [optional]; rfl⟩
  by_cases star : char = '*'
  · exact .inl ⟨0, none, fun rest => by rw [star]; rfl⟩
  by_cases plus : char = '+'
  · exact .inl ⟨1, none, fun rest => by rw [plus]; rfl⟩
  right
  by_cases closes : char = ')'
  · exact ⟨reading.close?, fun rest => by rw [closes]; rfl⟩
  by_cases branch : char = '|'
  · exact ⟨some { reading with level := reading.level.nextBranch }, fun rest => by
      rw [branch]; rfl⟩
  by_cases dot : char = '.'
  · exact ⟨(dot? reading.flags).map reading.pushLeaf, fun rest => by
      rw [dot, Option.map_map]; rfl⟩
  by_cases start : char = '^'
  · exact ⟨some (reading.pushLeaf (.look (caret reading.flags))), fun rest => by rw [start]; rfl⟩
  by_cases stop : char = '$'
  · exact ⟨some (reading.pushLeaf (.look (dollar reading.flags))), fun rest => by rw [stop]; rfl⟩
  exact ⟨some (reading.pushLeaf (.one (foldCase reading.flags (.single char)))), fun rest => by
    simp [readStep, *]⟩

theorem tracks_withSet {bound : Nat} (read behind : Nested × Source)
    (alike : Alike comment tail bound read behind) :
    Tracks (Alike comment tail bound) (Overrun reading tail) (withSet? reading read)
      (withSet? reading behind) := by
  rcases read with ⟨set, rest⟩
  rcases behind with ⟨set', behind⟩
  rcases alike with ⟨rfl, follows, short⟩
  simp only [withSet?]
  cases oneOf? reading.flags set.set with
  | none => exact .failed
  | some regex => exact .same follows short

theorem tracks_withPiece {bound : Nat} (read behind : Piece × Source)
    (alike : Alike comment tail bound read behind) :
    Tracks (Alike comment tail bound) (Overrun reading tail) (withPiece? reading read)
      (withPiece? reading behind) := by
  rcases read with ⟨piece, rest⟩
  rcases behind with ⟨piece', behind⟩
  rcases alike with ⟨rfl, follows, short⟩
  simp only [withPiece?]
  cases pieceRegex? reading.flags piece with
  | none => exact .failed
  | some regex => exact .same follows short

theorem lags_withPiece {bound : Nat} (read : Piece × Source)
    (late : Overread reading.flags tail read) :
    Tracks (Alike comment tail bound) (Overrun reading tail) none (withPiece? reading read) := by
  cases late with
  | @anchors piece rest all =>
      simp only [withPiece?]
      cases pieceRegex? reading.flags piece with
      | none => exact .failed
      | some regex => exact .late (.anchors rfl all)
  | brace bare => exact .late (.brace rfl bare)

theorem tracks_withCounts (closing : IsClosing tail) {bound : Nat}
    (read behind : Nat × Option Nat × Source) (alike : AlikeCounts comment tail bound read behind) :
    Tracks (Alike comment tail bound) (Overrun reading tail) (withCounts? reading read)
      (withCounts? reading behind) := by
  rcases read with ⟨least, most, rest⟩
  rcases behind with ⟨least', most', behind⟩
  rcases alike with ⟨rfl, same, follows, short⟩
  simp only at same follows short
  subst same
  have shorter := length_skipSpace_le reading.flags rest
  exact (tracks_readRepetition closing (follows.skipSpace closing reading.flags)).widen (by omega)

/-- A step is the same with more behind the source, or it runs over what is behind it. -/
theorem tracks_readStep (closing : IsClosing tail) (reading : Reading) (char : Char)
    (follows : Follows comment tail first second) :
    Tracks (Alike comment tail (first.length + 1)) (Overrun reading tail)
      (readStep reading char first) (readStep reading char second) := by
  rcases readStep_cases reading char with rfl | rfl | rfl | rfl | ⟨least, most, step⟩ | ⟨next, step⟩
  · rw [readStep_open, readStep_open]
    exact tracks_readOpening closing follows
  · rw [readStep_set, readStep_set]
    have set : Tracks (Alike comment tail first.length) Never
        (readSet reading.flags (2 * first.length + 2) first)
        (readSet reading.flags (2 * second.length + 2) second) :=
      (setsTrack_and_itemsTrack closing (2 * first.length + 2)).1 (by omega) (by omega) follows
    exact (set.widen (Nat.le_succ _)).bind_never tracks_withSet
  · rw [readStep_counts, readStep_counts]
    exact (tracks_readCounts closing follows).bind_never (tracks_withCounts closing)
  · rw [readStep_escape, readStep_escape]
    exact ((tracks_readEscape closing follows).widen (Nat.le_succ _)).bind tracks_withPiece
      lags_withPiece
  · rw [step, step]
    exact tracks_readRepetition closing follows
  · rw [step, step]
    cases next with
    | none => exact .failed
    | some next => exact .same follows (Nat.lt_succ_self _)

end Step

end Regex

end TagOrganizer
