import Mathlib
import TagOrganizer.Proofs.Regex.Escapes

/-!
# Sets that are followed by a closing parenthesis

Reading a set in brackets gives the same with a closing parenthesis behind the source, or fails in
both cases (`setsTrack_and_itemsTrack`): where an item is read too far, no bracket is left that
would close the set (`readItems_unclosed`). Sets and their items call each other, so that both are
followed at once, by the room that is left for them.
-/

namespace TagOrganizer

namespace Regex

variable {comment : Prop} {tail first second : Source} {flags : Flags}

/-! ### Items of a set -/

/-- The piece that has been read, if it may be in a set. -/
def admit? (flags : Flags) (read : Piece × Source) : Option (Piece × Source) :=
  if read.1.isAdmitted flags then some read else none

theorem readItem_escape (rest : Source) :
    readItem flags ('\\' :: rest) = (readEscape flags rest).bind (admit? flags) := rfl

theorem readItem_char {char : Char} (plain : char ≠ '\\') (rest : Source) :
    readItem flags (char :: rest) = admit? flags (.char char, rest) := by
  rw [readItem]
  · rfl
  · exact plain

theorem tracks_admit {bound : Nat} (first second : Piece × Source)
    (alike : Alike comment tail bound first second) :
    Tracks (Alike comment tail bound) (Overread flags tail) (admit? flags first)
      (admit? flags second) := by
  rw [admit?, admit?, alike.1]
  split
  · exact .alike alike
  · exact .failed

theorem lags_admit (read : Piece × Source) (late : Overread flags tail read) {bound : Nat} :
    Tracks (Alike comment tail bound) (Overread flags tail) none (admit? flags read) := by
  rw [admit?]
  split
  · exact .late late
  · exact .failed

theorem tracks_readItem (closing : IsClosing tail) (follows : Follows comment tail first second) :
    Tracks (Alike comment tail first.length) (Overread flags tail) (readItem flags first)
      (readItem flags second) := by
  rcases follows.head closing with ⟨rfl, rfl⟩ | ⟨rfl, rfl, anchors, rfl, all⟩ |
    ⟨char, rest, behind, rfl, rfl, goesOn⟩
  · exact .failed
  · rw [readItem_char (by decide)]
    exact lags_admit _ (.anchors all)
  · by_cases escaped : char = '\\'
    · subst escaped
      rw [readItem_escape, readItem_escape]
      exact ((tracks_readEscape closing goesOn).widen (Nat.le_succ _)).bind tracks_admit
        fun read late => lags_admit read late
    · rw [readItem_char escaped, readItem_char escaped]
      exact tracks_admit _ _ ⟨rfl, goesOn, Nat.lt_succ_self _⟩

/-- The set that a piece is alone. -/
def alone? (piece : Piece) : Option Nested :=
  match piece with
  | .char char => some ⟨.single char, 0⟩
  | .set set => some ⟨set, 0⟩
  | .look _ => none

/-- The set from one piece to another. -/
def span? (first last : Piece) : Option Nested :=
  match first, last with
  | .char low, .char high => if low ≤ high then some ⟨.range low high, 0⟩ else none
  | _, _ => none

/-- The item of a set that begins with a piece. -/
def rangeFrom? (flags : Flags) (first : Piece × Source) : Option (Nested × Source) :=
  match skipSpace flags first.2 with
  | [] => none
  | '-' :: more =>
      match skipSpace flags more with
      | [] => none
      | ']' :: _ => (alone? first.1).map fun item => (item, '-' :: more)
      | '-' :: _ => (alone? first.1).map fun item => (item, '-' :: more)
      | more => (readItem flags more).bind fun last =>
          (span? first.1 last.1).map fun item => (item, last.2)
  | rest => (alone? first.1).map fun item => (item, rest)

theorem readRange_eq (source : Source) :
    readRange flags source = (readItem flags source).bind (rangeFrom? flags) := by
  rw [readRange]
  congr 1
  funext ⟨first, rest⟩
  simp only [rangeFrom?]
  cases skipSpace flags rest with
  | nil => rfl
  | cons char more =>
      by_cases dash : char = '-'
      · subst dash
        simp only
        cases skipSpace flags more with
        | nil => rfl
        | cons next others =>
            by_cases ends : next = ']'
            · subst ends
              cases first <;> rfl
            by_cases again : next = '-'
            · subst again
              cases first <;> rfl
            cases item : readItem flags (next :: others) with
            | none => cases first <;> simp [ends, again, item]
            | some last =>
                rcases last with ⟨last, left⟩
                cases first <;> cases last <;> simp [span?, ends, again, item]
      · cases first <;> simp [alone?, dash]

section RangeFrom

variable {piece : Piece} {rest more others : Source} {char next : Char}

theorem rangeFrom?_ended (ended : skipSpace flags rest = []) :
    rangeFrom? flags (piece, rest) = none := by
  simp [rangeFrom?, ended]

theorem rangeFrom?_alone (begins : skipSpace flags rest = char :: more) (noDash : char ≠ '-') :
    rangeFrom? flags (piece, rest) = (alone? piece).map fun item => (item, char :: more) := by
  simp [rangeFrom?, begins, noDash]

theorem rangeFrom?_dash_ended (dash : skipSpace flags rest = '-' :: more)
    (ended : skipSpace flags more = []) : rangeFrom? flags (piece, rest) = none := by
  simp [rangeFrom?, dash, ended]

theorem rangeFrom?_dash_alone (dash : skipSpace flags rest = '-' :: more)
    (begins : skipSpace flags more = next :: others) (closes : next = ']' ∨ next = '-') :
    rangeFrom? flags (piece, rest) = (alone? piece).map fun item => (item, '-' :: more) := by
  rcases closes with rfl | rfl <;> simp [rangeFrom?, dash, begins]

theorem rangeFrom?_dash_to (dash : skipSpace flags rest = '-' :: more)
    (begins : skipSpace flags more = next :: others) (goesOn : ¬ (next = ']' ∨ next = '-')) :
    rangeFrom? flags (piece, rest) = (readItem flags (next :: others)).bind fun last =>
      (span? piece last.1).map fun item => (item, last.2) := by
  rw [not_or] at goesOn
  simp [rangeFrom?, dash, begins, goesOn]

end RangeFrom

/-- What is left after an item that has been read too far. -/
def Unclosed (read : Nested × Source) : Prop :=
  ∀ char ∈ read.2, char = ')' ∨ char = '$'

theorem lags_map {item : Option Nested} {rest : Source} {bound : Nat}
    (unclosed : ∀ char ∈ rest, char = ')' ∨ char = '$') :
    Tracks (Alike comment tail bound) Unclosed none (item.map fun item => (item, rest)) := by
  cases item with
  | none => exact .failed
  | some item => exact .late unclosed

theorem tracks_map {item : Option Nested} {rest behind : Source} {bound : Nat}
    (follows : Follows comment tail rest behind) (short : rest.length < bound) :
    Tracks (Alike comment tail bound) Unclosed (item.map fun item => (item, rest))
      (item.map fun item => (item, behind)) := by
  cases item with
  | none => exact .failed
  | some item => exact .same follows short

/-- The end of a range is read from what is behind a text, or from the same text. -/
theorem tracks_span {piece : Piece} {bound : Nat} (closing : IsClosing tail)
    (follows : Follows comment tail first second) (short : first.length ≤ bound) :
    Tracks (Alike comment tail bound) Unclosed
      ((readItem flags first).bind fun last =>
        (span? piece last.1).map fun item => (item, last.2))
      ((readItem flags second).bind fun last =>
        (span? piece last.1).map fun item => (item, last.2)) := by
  refine (tracks_readItem closing follows).bind ?_ ?_
  · rintro ⟨last, rest⟩ ⟨-, behind⟩ ⟨rfl, goesOn, shorter⟩
    exact tracks_map goesOn (by omega)
  · rintro ⟨last, rest⟩ late
    cases late with
    | anchors all => exact lags_map fun char among => .inr (all char among)
    | brace bare =>
        cases piece <;> exact .failed

theorem tracks_rangeFrom (closing : IsClosing tail) {bound : Nat} (read behind : Piece × Source)
    (alike : Alike comment tail bound read behind) :
    Tracks (Alike comment tail bound) Unclosed (rangeFrom? flags read)
      (rangeFrom? flags behind) := by
  rcases read with ⟨piece, rest⟩
  rcases behind with ⟨other, behind⟩
  rcases alike with ⟨rfl, follows, short⟩
  simp only at follows short
  have shorter := length_skipSpace_le flags rest
  rcases (follows.skipSpace closing flags).head closing with ⟨ended, ended'⟩ |
    ⟨ended, begins, anchors, isTail, all⟩ | ⟨char, more, more', begins, begins', goesOn⟩
  · rw [rangeFrom?_ended ended, rangeFrom?_ended ended']
    exact .failed
  · rw [rangeFrom?_ended ended, rangeFrom?_alone (begins.trans isTail) (by decide), ← isTail]
    exact lags_map fun char among => closing.mem among
  · rw [begins, List.length_cons] at shorter
    by_cases dash : char = '-'
    · subst dash
      have shorterMore := length_skipSpace_le flags more
      rcases (goesOn.skipSpace closing flags).head closing with ⟨ended, ended'⟩ |
        ⟨ended, beyond, anchors, isTail, all⟩ | ⟨next, others, others', beyond, beyond', further⟩
      · rw [rangeFrom?_dash_ended begins ended, rangeFrom?_dash_ended begins' ended']
        exact .failed
      · rw [rangeFrom?_dash_ended begins ended,
          rangeFrom?_dash_to begins' (beyond.trans isTail) (by decide), ← isTail]
        exact tracks_span closing (.shown [] nofun) (Nat.zero_le _)
      · by_cases closes : next = ']' ∨ next = '-'
        · rw [rangeFrom?_dash_alone begins beyond closes,
            rangeFrom?_dash_alone begins' beyond' closes]
          have whole := follows.skipSpace closing flags
          rw [begins, begins'] at whole
          exact tracks_map whole (by rw [List.length_cons]; omega)
        · rw [rangeFrom?_dash_to begins beyond closes, rangeFrom?_dash_to begins' beyond' closes]
          have whole := goesOn.skipSpace closing flags
          rw [beyond] at shorterMore
          rw [beyond, beyond'] at whole
          exact tracks_span closing whole (by omega)
    · rw [rangeFrom?_alone begins dash, rangeFrom?_alone begins' dash]
      have whole := follows.skipSpace closing flags
      rw [begins, begins'] at whole
      exact tracks_map whole (by rw [List.length_cons]; omega)

theorem lags_rangeFrom {bound : Nat} (read : Piece × Source) (late : Overread flags tail read) :
    Tracks (Alike comment tail bound) Unclosed none (rangeFrom? flags read) := by
  cases late with
  | @anchors piece rest all =>
      have unclosed : ∀ char ∈ rest, char = ')' ∨ char = '$' := fun char among =>
        .inr (all char among)
      have same := skipSpace_unclosed flags unclosed
      cases rest with
      | nil =>
          rw [rangeFrom?_ended same]
          exact .failed
      | cons char rest =>
          have noDash : char ≠ '-' := by
            rw [all char (.head _)]
            decide
          rw [rangeFrom?_alone same noDash]
          exact lags_map unclosed
  | @brace condition rest bare =>
      rw [rangeFrom?_alone (skipSpace_other (by decide) (by decide)) (by decide)]
      exact .failed

theorem tracks_readRange (closing : IsClosing tail) (follows : Follows comment tail first second) :
    Tracks (Alike comment tail first.length) Unclosed (readRange flags first)
      (readRange flags second) := by
  rw [readRange_eq, readRange_eq]
  exact (tracks_readItem closing follows).bind (tracks_rangeFrom closing) lags_rangeFrom

theorem readDashes_other {room : Nat} {items : List Nested} {source : Source}
    (other : ∀ rest, source ≠ '-' :: rest) :
    readDashes flags room items source = (items, source) := by
  cases room with
  | zero => rfl
  | succ room =>
      rw [readDashes]
      exact fun rest same => other rest same

theorem alike_readDashes_other (closing : IsClosing tail) {room room' : Nat} {items : List Nested}
    (follows : Follows comment tail first second) (other : ∀ rest, first ≠ '-' :: rest) :
    Alike comment tail (first.length + 1) (readDashes flags room items first)
      (readDashes flags room' items second) := by
  rw [readDashes_other other, readDashes_other (follows.ne_cons closing (by decide) other)]
  exact ⟨rfl, follows, Nat.lt_succ_self _⟩

theorem alike_readDashes (closing : IsClosing tail) {room room' : Nat} {items : List Nested}
    (enough : first.length ≤ room) (enough' : second.length ≤ room')
    (follows : Follows comment tail first second) :
    Alike comment tail (first.length + 1) (readDashes flags room items first)
      (readDashes flags room' items second) := by
  induction room generalizing room' items first second with
  | zero =>
      have ended : first = [] := List.length_eq_zero_iff.1 (Nat.le_zero.1 enough)
      exact alike_readDashes_other closing follows (by simp [ended])
  | succ room ih =>
      by_cases dashed : ∃ rest, first = '-' :: rest
      · rcases dashed with ⟨rest, rfl⟩
        rcases follows.of_cons with ⟨behind, rfl, goesOn⟩
        cases room' with
        | zero => exact absurd enough' (Nat.not_succ_le_zero _)
        | succ room' =>
            rw [List.length_cons] at enough enough' ⊢
            have shorter := length_skipSpace_le flags rest
            have shorter' := length_skipSpace_le flags behind
            have further : Alike comment tail ((skipSpace flags rest).length + 1)
                (readDashes flags room (⟨.single '-', 0⟩ :: items) (skipSpace flags rest))
                (readDashes flags room' (⟨.single '-', 0⟩ :: items) (skipSpace flags behind)) :=
              ih (by omega) (by omega) (goesOn.skipSpace closing flags)
            exact ⟨further.1, further.2.1, Nat.lt_of_lt_of_le further.2.2 (by omega)⟩
      · exact alike_readDashes_other closing follows (not_exists.1 dashed)

/-- The named set that is read after the sign that it is negated, if there is one. -/
def nameAt? (flags : Flags) (negated : Bool) (rest : Source) : Option (Nested × Source) :=
  match rest.dropWhile (· != ':') with
  | ':' :: ']' :: others => do
      let set ← CharSet.named? (String.ofList (rest.takeWhile (· != ':')))
      let folded := foldCase flags set
      return (⟨if negated then negate flags folded else folded, 0⟩, others)
  | _ => none

theorem readNamed?_negated (rest : Source) :
    readNamed? flags (':' :: '^' :: rest) = nameAt? flags true rest := rfl

theorem readNamed?_colon {rest : Source} (plain : ∀ others, rest ≠ '^' :: others) :
    readNamed? flags (':' :: rest) = nameAt? flags false rest := by
  rw [readNamed?]
  · rfl
  · exact plain

theorem readNamed?_other {source : Source} (other : ∀ rest, source ≠ ':' :: rest) :
    readNamed? flags source = none := by
  rw [readNamed?]
  exact fun rest same => other rest same

theorem nameAt?_other {negated : Bool} {char : Char} {rest others : Source}
    (ends : rest.dropWhile (· != ':') = ':' :: char :: others) (different : char ≠ ']') :
    nameAt? flags negated rest = none := by
  simp [nameAt?, ends, different]

theorem tracks_nameAt (closing : IsClosing tail) {negated : Bool}
    (follows : Follows comment tail first second) :
    Tracks (Alike comment tail first.length) Never (nameAt? flags negated first)
      (nameAt? flags negated second) := by
  cases follows with
  | hidden => exact .failed
  | shown _ marked =>
      rcases dropWhile_append_closing closing ':' (by decide) (by decide) first with
        ⟨none, none'⟩ | ⟨rest, here, here', name⟩
      · simp only [nameAt?, none, none']
        exact .failed
      · have shorter := (first.dropWhile_suffix (· != ':')).length_le
        rw [here, List.length_cons] at shorter
        have follows : Follows comment tail rest (rest ++ tail) :=
          .shown rest fun among => marked (mem_of_mem_dropped here among)
        rcases follows.head closing with ⟨rfl, ended⟩ |
          ⟨rfl, same, anchors, isTail, -⟩ | ⟨char, others, behind, rfl, begins, goesOn⟩
        · simp only [nameAt?, here, here', ended]
          exact .failed
        · have begins : (first ++ tail).dropWhile (· != ':') = ':' :: ')' :: anchors := by
            rw [here', same, isTail]
          rw [nameAt?_other begins (by decide), nameAt?, here]
          exact .failed
        · rw [begins] at here'
          by_cases ends : char = ']'
          · subst ends
            simp only [nameAt?, here, here', name]
            cases CharSet.named? (String.ofList (first.takeWhile (· != ':'))) with
            | none => exact .failed
            | some set => exact .same goesOn (by rw [List.length_cons] at shorter; omega)
          · rw [nameAt?_other here ends, nameAt?_other here' ends]
            exact .failed

theorem tracks_readNamed (flags : Flags) (closing : IsClosing tail)
    (follows : Follows comment tail first second) :
    Tracks (Alike comment tail first.length) Never (readNamed? flags first)
      (readNamed? flags second) := by
  by_cases colon : ∃ rest, first = ':' :: rest
  · rcases colon with ⟨rest, rfl⟩
    rcases follows.of_cons with ⟨behind, rfl, goesOn⟩
    by_cases negated : ∃ others, rest = '^' :: others
    · rcases negated with ⟨others, rfl⟩
      rcases goesOn.of_cons with ⟨behind, rfl, further⟩
      rw [readNamed?_negated, readNamed?_negated]
      exact (tracks_nameAt closing further).widen (by simp only [List.length_cons]; omega)
    · rw [readNamed?_colon (not_exists.1 negated),
        readNamed?_colon (goesOn.ne_cons closing (by decide) (not_exists.1 negated))]
      exact (tracks_nameAt closing goesOn).widen (by simp only [List.length_cons]; omega)
  · rw [readNamed?_other (not_exists.1 colon),
      readNamed?_other (follows.ne_cons closing (by decide) (not_exists.1 colon))]
    exact .failed

/-! ### Sets -/

/-- The sign at the beginning of a set that it is negated. -/
def readCaret (flags : Flags) (source : Source) : Bool × Source :=
  match skipSpace flags source with
  | '^' :: rest => (true, skipSpace flags rest)
  | source => (false, source)

/-- A bracket at the beginning of a set, which does not close it. -/
def readBracket (flags : Flags) (items : List Nested) (source : Source) : List Nested × Source :=
  match items, source with
  | [], ']' :: rest => ([⟨.single ']', 0⟩], skipSpace flags rest)
  | items, source => (items, source)

/-- The items at the beginning of a set that are no ranges. -/
def readStart (flags : Flags) (source : Source) : List Nested × Source :=
  let dashes := readDashes flags source.length [] source
  readBracket flags dashes.1 dashes.2

theorem readSet_succ (room : Nat) (source : Source) :
    readSet flags (room + 1) source =
      (readItems flags room none (readStart flags (readCaret flags source).2).1
        (readStart flags (readCaret flags source).2).2).bind fun inner =>
          some (⟨if (readCaret flags source).1 then negate flags (foldCase flags inner.1.set)
            else foldCase flags inner.1.set, 1 + inner.1.height⟩, inner.2) := by
  rw [readSet]
  rfl

/-- The way of joining two sets that two characters stand for. -/
def jointOf? (first second : Char) : Option Nested.Joint :=
  match first, second with
  | '&', '&' => some .intersection
  | '-', '-' => some .difference
  | '~', '~' => some .symmetric
  | _, _ => none

/-- The sign at the beginning of a source that joins two sets. -/
def jointAt? (source : Source) : Option (Nested.Joint × Source) :=
  match source with
  | first :: second :: rest => (jointOf? first second).map fun joint => (joint, rest)
  | _ => none

/-- What is behind a text joins no sets. -/
theorem jointAt?_unclosed {char : Char} (unclosed : char = ')' ∨ char = '$') (rest : Source) :
    jointAt? (char :: rest) = none := by
  rcases unclosed with rfl | rfl <;> cases rest <;> simp [jointAt?, jointOf?]

theorem jointAt?_before {char : Char} (rest : Source) : jointAt? (char :: ')' :: rest) = none := by
  simp [jointAt?, jointOf?]

section ReadItems

variable {room : Nat} {left : Option (Nested × Nested.Joint)} {items : List Nested}
  {source rest : Source}

theorem readItems_ended (ended : skipSpace flags source = []) :
    readItems flags room left items source = none := by
  cases room with
  | zero => rw [readItems]
  | succ room => simp [readItems, ended]

theorem readItems_closed (closed : skipSpace flags source = ']' :: rest) :
    readItems flags (room + 1) left items source =
      some (Nested.join flags left (Nested.ofItems items), rest) := by
  simp [readItems, closed]

theorem readItems_named {item : Nested × Source} (opened : skipSpace flags source = '[' :: rest)
    (named : readNamed? flags rest = some item) :
    readItems flags (room + 1) left items source =
      readItems flags room left (item.1 :: items) item.2 := by
  simp [readItems, opened, named]

theorem readItems_opened (opened : skipSpace flags source = '[' :: rest)
    (unnamed : readNamed? flags rest = none) :
    readItems flags (room + 1) left items source = (readSet flags room rest).bind fun item =>
      readItems flags room left (item.1 :: items) item.2 := by
  simp [readItems, opened, unnamed]

theorem readItems_joint {joint : Nested.Joint × Source}
    (joined : jointAt? (skipSpace flags source) = some joint) :
    readItems flags (room + 1) left items source =
      readItems flags room (some (Nested.join flags left (Nested.ofItems items), joint.1)) []
        joint.2 := by
  rw [jointAt?.eq_def] at joined
  split at joined
  · rename_i first second rest begins
    rw [jointOf?.eq_def] at joined
    split at joined <;> cases joined <;> simp [readItems, begins]
  · cases joined

theorem readItems_range {char : Char} (begins : skipSpace flags source = char :: rest)
    (opens : char ≠ '[') (closes : char ≠ ']') (apart : jointAt? (char :: rest) = none) :
    readItems flags (room + 1) left items source =
      (readRange flags (char :: rest)).bind fun item =>
        readItems flags room left (item.1 :: items) item.2 := by
  rw [readItems]
  simp only [begins]
  split
  · cases ‹char :: rest = []›
  · cases ‹char :: rest = '[' :: _›
    exact absurd rfl opens
  · cases ‹char :: rest = ']' :: _›
    exact absurd rfl closes
  · cases ‹char :: rest = '&' :: '&' :: _›
    cases apart
  · cases ‹char :: rest = '-' :: '-' :: _›
    cases apart
  · cases ‹char :: rest = '~' :: '~' :: _›
    cases apart
  · rfl

/-- No bracket closes a set behind the text. -/
theorem readItems_unclosed (unclosed : ∀ char ∈ skipSpace flags source, char = ')' ∨ char = '$') :
    readItems flags room left items source = none := by
  induction room generalizing items source with
  | zero => rw [readItems]
  | succ room ih =>
      cases begins : skipSpace flags source with
      | nil => exact readItems_ended begins
      | cons char rest =>
          rw [begins, List.forall_mem_cons] at unclosed
          rcases unclosed with ⟨first, unclosed⟩
          have same := skipSpace_unclosed flags unclosed
          have apart := jointAt?_unclosed first rest
          have notOpen : char ≠ '[' := by rcases first with rfl | rfl <;> decide
          have notClosed : char ≠ ']' := by rcases first with rfl | rfl <;> decide
          have plain : char ≠ '\\' := by rcases first with rfl | rfl <;> decide
          rw [readItems_range begins notOpen notClosed apart, readRange_eq, readItem_char plain,
            admit?]
          split
          · cases rest with
            | nil => simp [rangeFrom?_ended same]
            | cons next others =>
                have noDash : next ≠ '-' := by
                  rcases unclosed next (.head _) with rfl | rfl <;> decide
                have none :
                    readItems flags room left (⟨.single char, 0⟩ :: items) (next :: others) =
                    none := ih (by rwa [same])
                simp [rangeFrom?_alone same noDash, alone?, none]
          · rfl

end ReadItems

theorem readCaret_other {source : Source}
    (other : ∀ rest, skipSpace flags source ≠ '^' :: rest) :
    readCaret flags source = (false, skipSpace flags source) := by
  rw [readCaret]
  split
  · exact absurd ‹_› (other _)
  · rfl

theorem alike_readCaret (flags : Flags) (closing : IsClosing tail)
    (follows : Follows comment tail first second) :
    Alike comment tail (first.length + 1) (readCaret flags first) (readCaret flags second) := by
  have shorter := length_skipSpace_le flags first
  have spaced := follows.skipSpace closing flags
  by_cases caret : ∃ rest, skipSpace flags first = '^' :: rest
  · rcases caret with ⟨rest, begins⟩
    rw [begins] at spaced shorter
    rcases spaced.of_cons with ⟨behind, begins', goesOn⟩
    have shorterRest := length_skipSpace_le flags rest
    rw [List.length_cons] at shorter
    simp only [readCaret, begins, begins']
    exact ⟨rfl, goesOn.skipSpace closing flags, by simp only; omega⟩
  · have other := not_exists.1 caret
    rw [readCaret_other other, readCaret_other (spaced.ne_cons closing (by decide) other)]
    exact ⟨rfl, spaced, Nat.lt_succ_of_le shorter⟩

theorem readBracket_other {items : List Nested} {source : Source}
    (other : ∀ rest, items = [] → source ≠ ']' :: rest) :
    readBracket flags items source = (items, source) := by
  rw [readBracket.eq_def]
  split
  · exact absurd rfl (other _ rfl)
  · rfl

theorem alike_readBracket (closing : IsClosing tail) {bound : Nat}
    {read behind : List Nested × Source} (alike : Alike comment tail bound read behind) :
    Alike comment tail bound (readBracket flags read.1 read.2)
      (readBracket flags behind.1 behind.2) := by
  rcases alike with ⟨same, follows, short⟩
  rw [same]
  by_cases bracket : behind.1 = [] ∧ ∃ rest, read.2 = ']' :: rest
  · rcases bracket with ⟨none, rest, begins⟩
    rw [begins] at follows short
    rcases follows.of_cons with ⟨others, begins', goesOn⟩
    have shorter := length_skipSpace_le flags rest
    rw [List.length_cons] at short
    simp only [readBracket, none, begins, begins']
    exact ⟨rfl, goesOn.skipSpace closing flags, by simp only; omega⟩
  · have other : ∀ rest, behind.1 = [] → read.2 ≠ ']' :: rest := fun rest none begins =>
      bracket ⟨none, rest, begins⟩
    rw [readBracket_other other, readBracket_other]
    · exact ⟨rfl, follows, short⟩
    · exact fun rest none => follows.ne_cons closing (by decide) (fun rest => other rest none) rest

theorem alike_readStart (flags : Flags) (closing : IsClosing tail)
    (follows : Follows comment tail first second) :
    Alike comment tail (first.length + 1) (readStart flags first) (readStart flags second) :=
  alike_readBracket closing (alike_readDashes closing (Nat.le_refl _) (Nat.le_refl _) follows)

theorem tracks_jointAt (closing : IsClosing tail) (follows : Follows comment tail first second) :
    Tracks (Alike comment tail first.length) Never (jointAt? first) (jointAt? second) := by
  rcases follows.head closing with ⟨rfl, rfl⟩ | ⟨rfl, rfl, anchors, rfl, -⟩ |
    ⟨char, rest, behind, rfl, rfl, goesOn⟩
  · exact .failed
  · rw [jointAt?_unclosed (.inl rfl)]
    exact .failed
  · rcases goesOn.head closing with ⟨rfl, rfl⟩ | ⟨rfl, rfl, anchors, rfl, -⟩ |
      ⟨next, others, behind, rfl, rfl, further⟩
    · exact .failed
    · rw [jointAt?_before]
      exact .failed
    · have short : others.length < (char :: next :: others).length := by
        simp only [List.length_cons]
        omega
      rw [jointAt?, jointAt?]
      cases jointOf? char next with
      | none => exact .failed
      | some joint => exact .same further short

/-- Whether sets are read alike with the given room and with enough room. -/
def SetsTrack (comment : Prop) (flags : Flags) (tail : Source) (room : Nat) : Prop :=
  ∀ {first second : Source} {room' : Nat}, 2 * first.length + 1 < room →
    2 * second.length + 1 < room' → Follows comment tail first second →
      Tracks (Alike comment tail first.length) Never (readSet flags room first)
        (readSet flags room' second)

/-- Whether the items of sets are read alike with the given room and with enough room. -/
def ItemsTrack (comment : Prop) (flags : Flags) (tail : Source) (room : Nat) : Prop :=
  ∀ {left : Option (Nested × Nested.Joint)} {items : List Nested} {first second : Source}
    {room' : Nat}, 2 * first.length < room → 2 * second.length < room' →
      Follows comment tail first second →
        Tracks (Alike comment tail first.length) Never (readItems flags room left items first)
          (readItems flags room' left items second)

/-- After an item has been read, the next ones are read alike. -/
theorem ItemsTrack.next {room room' bound : Nat} (track : ItemsTrack comment flags tail room)
    (enough : 2 * bound ≤ room) (enough' : 2 * second.length ≤ room')
    (follows : Follows comment tail first second) (short : first.length ≤ bound)
    {left : Option (Nested × Nested.Joint)} {items : List Nested} {α : Type}
    {read read' : α × Source} (alike : Alike comment tail first.length read read') :
    Tracks (Alike comment tail bound) Never (readItems flags room left items read.2)
      (readItems flags room' left items read'.2) := by
  have less := alike.shorter follows
  have less' := alike.2.2
  exact (track (by omega) (by omega) alike.2.1).widen (by omega)

theorem readSet_nil (room : Nat) : readSet flags room [] = none := by
  cases room with
  | zero => rw [readSet]
  | succ room =>
      rw [readSet_succ, readItems_ended]
      · rfl
      · simp [readCaret_other, readStart, readDashes_other, readBracket_other]

theorem setsTrack_succ (closing : IsClosing tail) {room : Nat}
    (track : ItemsTrack comment flags tail room) : SetsTrack comment flags tail (room + 1) := by
  intro first second room' enough enough' follows
  cases room' with
  | zero => omega
  | succ room' =>
      cases follows with
      | hidden =>
          rw [readSet_nil, readSet_nil]
          exact .failed
      | shown _ marked =>
          have caret := alike_readCaret flags closing (.shown first marked)
          have start := alike_readStart flags closing caret.2.1
          have less := caret.2.2
          have less' := start.2.2
          have longer := start.length_lt
          rw [List.length_append] at enough'
          rw [readSet_succ, readSet_succ, ← caret.1, ← start.1]
          refine (track (by omega) (by omega) start.2.1).bind_never ?_
          rintro ⟨inner, rest⟩ ⟨-, behind⟩ ⟨rfl, goesOn, short⟩
          exact .same goesOn (Nat.lt_of_lt_of_le short (by omega))

theorem itemsTrack_succ (closing : IsClosing tail) {room : Nat}
    (trackSets : SetsTrack comment flags tail room) (track : ItemsTrack comment flags tail room) :
    ItemsTrack comment flags tail (room + 1) := by
  intro left items first second room' enough enough' follows
  cases room' with
  | zero => omega
  | succ room' =>
      have shorter := length_skipSpace_le flags first
      have shorter' := length_skipSpace_le flags second
      have spaced := follows.skipSpace closing flags
      rcases spaced.head closing with ⟨ended, ended'⟩ | ⟨ended, begins, -⟩ |
        ⟨char, rest, behind, begins, begins', goesOn⟩
      · rw [readItems_ended ended, readItems_ended ended']
        exact .failed
      · -- The set is not closed in the text, and nothing behind the text closes it.
        rw [readItems_ended ended, readItems_unclosed]
        · exact .failed
        · rw [begins]
          exact fun char among => closing.mem among
      · rw [begins, begins'] at spaced
        rw [begins, List.length_cons] at shorter
        rw [begins', List.length_cons] at shorter'
        by_cases opens : char = '['
        · subst opens
          have named := tracks_readNamed flags closing goesOn
          generalize isNamed : readNamed? flags rest = item,
            isNamed' : readNamed? flags behind = item' at named
          cases named with
          | late never => exact never.elim
          | @alike item item' alike =>
              rw [readItems_named begins isNamed, readItems_named begins' isNamed', alike.1]
              exact track.next (by omega) (by omega) goesOn (by omega) alike
          | failed =>
              rw [readItems_opened begins isNamed, readItems_opened begins' isNamed']
              refine (trackSets (by omega) (by omega) goesOn).bind_never fun item item' alike => ?_
              rw [alike.1]
              exact track.next (by omega) (by omega) goesOn (by omega) alike
        · by_cases closes : char = ']'
          · subst closes
            rw [readItems_closed begins, readItems_closed begins']
            exact .same goesOn (by omega)
          · have joint := tracks_jointAt closing spaced
            generalize isJoint : jointAt? (char :: rest) = found,
              isJoint' : jointAt? (char :: behind) = found' at joint
            cases joint with
            | late never => exact never.elim
            | @alike found found' alike =>
                rw [← begins] at isJoint
                rw [← begins'] at isJoint'
                rw [readItems_joint isJoint, readItems_joint isJoint', alike.1]
                exact track.next (by omega) (by rw [List.length_cons]; omega) spaced
                  (by rw [List.length_cons]; omega) alike
            | failed =>
                rw [readItems_range begins opens closes isJoint,
                  readItems_range begins' opens closes isJoint']
                refine (tracks_readRange closing spaced).bind ?_ ?_
                · intro item item' alike
                  rw [alike.1]
                  exact track.next (by omega) (by rw [List.length_cons]; omega) spaced
                    (by rw [List.length_cons]; omega) alike
                · -- An item that takes up the parenthesis leaves no bracket behind it.
                  intro item unclosed
                  rw [readItems_unclosed]
                  · exact .failed
                  · rwa [skipSpace_unclosed flags unclosed]

theorem setsTrack_and_itemsTrack (closing : IsClosing tail) (room : Nat) :
    SetsTrack comment flags tail room ∧ ItemsTrack comment flags tail room := by
  induction room with
  | zero => exact ⟨fun enough => by omega, fun enough => by omega⟩
  | succ room ih => exact ⟨setsTrack_succ closing ih.2, itemsTrack_succ closing ih.1 ih.2⟩

end Regex

end TagOrganizer
