import Mathlib
import TagOrganizer.Regex.Parser

/-!
# Reading what is followed by a closing parenthesis

A pattern is put into parentheses before it is read. This module compares reading a text with
reading the same text and a closing parenthesis behind it (`Follows`): the closing parenthesis is
still there after what has been read, unless a comment has swallowed it. A reader tracks itself
(`Tracks`) if it gives the same in both cases, or fails in both; where it fails only for want of
further characters, it may take the parenthesis for one of them, and is `late` then.
-/

namespace TagOrganizer

namespace Regex

/-- A closing parenthesis, and perhaps anchors behind it. -/
def IsClosing (tail : Source) : Prop :=
  ∃ anchors, tail = ')' :: anchors ∧ ∀ char ∈ anchors, char = '$'

/--
What is left of a text, and what is left of it where something is written behind it, which is still
there unless a comment has swallowed it. What is left begins no comment unless the text holds one.
-/
inductive Follows (comment : Prop) (tail : Source) : Source → Source → Prop where
  | shown (source : Source) (marked : '#' ∈ source → comment) :
      Follows comment tail source (source ++ tail)
  | hidden (marked : comment) : Follows comment tail [] []

/--
How two results of reading compare: both are there and alike, neither is there, or only the second
one is there, and it is a late one.
-/
inductive Tracks {α : Type} (alike : α → α → Prop) (late : α → Prop) :
    Option α → Option α → Prop where
  | alike {first second : α} (same : alike first second) :
      Tracks alike late (some first) (some second)
  | failed : Tracks alike late none none
  | late {second : α} (comesLate : late second) : Tracks alike late none (some second)

/--
Whether two results are the same value, with less than `bound` characters left of the first source
and what follows it left of the second.
-/
def Alike {α : Type} (comment : Prop) (tail : Source) (bound : Nat) (first second : α × Source) :
    Prop :=
  first.1 = second.1 ∧ Follows comment tail first.2 second.2 ∧ first.2.length < bound

/-- No result comes late. -/
def Never {α : Type} (_ : α) : Prop := False

namespace Tracks

variable {α β : Type} {alike : α → α → Prop} {late : α → Prop} {alike' : β → β → Prop}
  {late' : β → Prop} {first second : Option α} {next next' : α → Option β}

theorem bind (tracks : Tracks alike late first second)
    (goesOn : ∀ first second, alike first second → Tracks alike' late' (next first) (next' second))
    (lags : ∀ second, late second → Tracks alike' late' none (next' second)) :
    Tracks alike' late' (first.bind next) (second.bind next') := by
  cases tracks with
  | alike same => exact goesOn _ _ same
  | failed => exact .failed
  | late comesLate => exact lags _ comesLate

theorem bind_never (tracks : Tracks alike Never first second)
    (goesOn : ∀ first second, alike first second →
      Tracks alike' late' (next first) (next' second)) :
    Tracks alike' late' (first.bind next) (second.bind next') :=
  tracks.bind goesOn fun _ never => never.elim

theorem map {change : α → β} (tracks : Tracks alike late first second)
    (sameImp : ∀ first second, alike first second → alike' (change first) (change second))
    (lateImp : ∀ second, late second → late' (change second)) :
    Tracks alike' late' (first.map change) (second.map change) := by
  cases tracks with
  | alike same => exact .alike (sameImp _ _ same)
  | failed => exact .failed
  | late comesLate => exact .late (lateImp _ comesLate)

theorem map_never {change : α → β} (tracks : Tracks alike Never first second)
    (sameImp : ∀ first second, alike first second → alike' (change first) (change second)) :
    Tracks alike' late' (first.map change) (second.map change) :=
  tracks.map sameImp fun _ never => never.elim

theorem mono {alike' : α → α → Prop} {late' : α → Prop} (tracks : Tracks alike late first second)
    (sameImp : ∀ first second, alike first second → alike' first second)
    (lateImp : ∀ second, late second → late' second) : Tracks alike' late' first second := by
  cases tracks with
  | alike same => exact .alike (sameImp _ _ same)
  | failed => exact .failed
  | late comesLate => exact .late (lateImp _ comesLate)

theorem same {comment : Prop} {tail rest behind : Source} {bound : Nat}
    {late : α × Source → Prop} {value : α}
    (follows : Follows comment tail rest behind) (short : rest.length < bound) :
    Tracks (Alike comment tail bound) late (some (value, rest)) (some (value, behind)) :=
  .alike ⟨rfl, follows, short⟩

end Tracks

/-! ### Blanks and comments -/

section SkipSpace

variable {flags : Flags} {char : Char} {rest source : Source}

/-- What follows the line of a comment. -/
def afterComment (rest : Source) : Source :=
  (rest.dropWhile (· != '\n')).drop 1

theorem length_afterComment_le (rest : Source) : (afterComment rest).length ≤ rest.length := by
  have shorter := (rest.dropWhile_suffix (· != '\n')).length_le
  rw [afterComment, List.length_drop]
  omega

/-- Blanks and comments are dropped one by one. -/
theorem space_induction {motive : Source → Prop} (nil : motive [])
    (blank : ∀ char rest, Text.isBlank char = true → motive rest → motive (char :: rest))
    (comment : ∀ rest, motive (afterComment rest) → motive ('#' :: rest))
    (other : ∀ char rest, Text.isBlank char = false → char ≠ '#' → motive (char :: rest))
    (source : Source) : motive source := by
  induction hlength : source.length using Nat.strongRecOn generalizing source with
  | ind length ih =>
      cases source with
      | nil => exact nil
      | cons char rest =>
          subst hlength
          cases isBlank : Text.isBlank char with
          | true => exact blank char rest isBlank (ih _ (Nat.lt_succ_self _) rest rfl)
          | false =>
              by_cases hash : char = '#'
              · subst hash
                exact comment rest
                  (ih _ (Nat.lt_succ_of_le (length_afterComment_le rest)) _ rfl)
              · exact other char rest isBlank hash

theorem go_comment (count : Nat) :
    skipSpace.go (count + 1) ('#' :: rest) = skipSpace.go count (afterComment rest) := by
  have notBlank : Text.isBlank '#' = false := by decide
  simp [skipSpace.go, notBlank, afterComment]

theorem go_eq_of_length_le {count more : Nat} (enough : source.length ≤ count)
    (enoughMore : source.length ≤ more) :
    skipSpace.go count source = skipSpace.go more source := by
  induction source using space_induction generalizing count more with
  | nil => cases count <;> cases more <;> rfl
  | blank char rest isBlank ih =>
      rcases Nat.exists_eq_add_of_lt enough with ⟨left, rfl⟩
      rcases Nat.exists_eq_add_of_lt enoughMore with ⟨leftMore, rfl⟩
      simp only [skipSpace.go, isBlank, if_true]
      exact ih (by omega) (by omega)
  | comment rest ih =>
      have shorter := length_afterComment_le rest
      rcases Nat.exists_eq_add_of_lt enough with ⟨left, rfl⟩
      rcases Nat.exists_eq_add_of_lt enoughMore with ⟨leftMore, rfl⟩
      rw [go_comment, go_comment]
      exact ih (by omega) (by omega)
  | other char rest isBlank different =>
      rcases Nat.exists_eq_add_of_lt enough with ⟨left, rfl⟩
      rcases Nat.exists_eq_add_of_lt enoughMore with ⟨leftMore, rfl⟩
      simp [skipSpace.go, isBlank, different]

theorem skipSpace_of_plain (plain : flags.spaced = false) : skipSpace flags source = source := by
  simp [skipSpace, plain]

@[simp] theorem skipSpace_nil : skipSpace flags [] = [] := by
  simp [skipSpace, skipSpace.go]

theorem skipSpace_blank (spaced : flags.spaced = true) (blank : Text.isBlank char = true) :
    skipSpace flags (char :: rest) = skipSpace flags rest := by
  simp [skipSpace, skipSpace.go, spaced, blank]

theorem skipSpace_comment (spaced : flags.spaced = true) :
    skipSpace flags ('#' :: rest) = skipSpace flags (afterComment rest) := by
  simp only [skipSpace, spaced, if_true, List.length_cons, go_comment]
  exact go_eq_of_length_le (length_afterComment_le rest) (Nat.le_refl _)

theorem skipSpace_other (blank : Text.isBlank char = false) (different : char ≠ '#') :
    skipSpace flags (char :: rest) = char :: rest := by
  simp [skipSpace, skipSpace.go, blank, different]

theorem length_skipSpace_le (flags : Flags) (source : Source) :
    (skipSpace flags source).length ≤ source.length := by
  cases spaced : flags.spaced with
  | false => rw [skipSpace_of_plain spaced]
  | true =>
      induction source using space_induction with
      | nil => simp
      | blank char rest isBlank ih =>
          rw [skipSpace_blank spaced isBlank]
          exact Nat.le_succ_of_le ih
      | comment rest ih =>
          rw [skipSpace_comment spaced]
          exact Nat.le_succ_of_le (ih.trans (length_afterComment_le rest))
      | other char rest isBlank different => rw [skipSpace_other isBlank different]

end SkipSpace

section Follows

variable {comment : Prop} {tail first second : Source}

theorem IsClosing.mem {char : Char} (closing : IsClosing tail) (among : char ∈ tail) :
    char = ')' ∨ char = '$' := by
  rcases closing with ⟨anchors, rfl, all⟩
  rcases List.mem_cons.1 among with rfl | among
  · exact .inl rfl
  · exact .inr (all char among)

/-- Neither anchors nor closing parentheses are blanks. -/
theorem skipSpace_unclosed (flags : Flags) {rest : Source}
    (unclosed : ∀ char ∈ rest, char = ')' ∨ char = '$') : skipSpace flags rest = rest := by
  cases rest with
  | nil => exact skipSpace_nil
  | cons char rest =>
      rcases unclosed char (.head _) with rfl | rfl
      · exact skipSpace_other (by decide) (by decide)
      · exact skipSpace_other (by decide) (by decide)

theorem IsClosing.skipSpace (closing : IsClosing tail) (flags : Flags) :
    skipSpace flags tail = tail :=
  skipSpace_unclosed flags fun _ among => closing.mem among

theorem IsClosing.dropWhile_eq_nil {ends : Char} (closing : IsClosing tail) (notParen : ends ≠ ')')
    (notDollar : ends ≠ '$') : tail.dropWhile (· != ends) = [] := by
  rw [List.dropWhile_eq_nil_iff]
  intro char among
  rcases closing.mem among with rfl | rfl
  · simpa using notParen.symm
  · simpa using notDollar.symm

/-- What follows the first of some characters is the same with more behind it. -/
theorem dropWhile_append_closing (closing : IsClosing tail) (ends : Char) (notParen : ends ≠ ')')
    (notDollar : ends ≠ '$') (source : Source) :
    (source.dropWhile (· != ends) = [] ∧ (source ++ tail).dropWhile (· != ends) = []) ∨
      ∃ rest, source.dropWhile (· != ends) = ends :: rest ∧
        (source ++ tail).dropWhile (· != ends) = ends :: (rest ++ tail) ∧
        (source ++ tail).takeWhile (· != ends) = source.takeWhile (· != ends) := by
  induction source with
  | nil => exact .inl ⟨rfl, closing.dropWhile_eq_nil notParen notDollar⟩
  | cons char source ih =>
      by_cases found : char = ends
      · subst found
        exact .inr ⟨source, by simp⟩
      · simpa [found] using ih

theorem mem_of_mem_dropped {char other : Char} {source rest : Source} {ends : Char → Bool}
    (dropped : source.dropWhile ends = char :: rest) (among : other ∈ rest) : other ∈ source :=
  (source.dropWhile_suffix ends).subset (dropped ▸ List.mem_cons_of_mem char among)

theorem Follows.afterComment (closing : IsClosing tail) (source : Source) (marked : comment) :
    Follows comment tail (afterComment source) (afterComment (source ++ tail)) := by
  rcases dropWhile_append_closing closing '\n' (by decide) (by decide) source with
    ⟨none, noneBehind⟩ | ⟨rest, here, hereBehind, -⟩
  · rw [Regex.afterComment, Regex.afterComment, none, noneBehind]
    exact .hidden marked
  · rw [Regex.afterComment, Regex.afterComment, here, hereBehind]
    exact .shown rest fun _ => marked

theorem Follows.skipSpace (closing : IsClosing tail) (flags : Flags)
    (follows : Follows comment tail first second) :
    Follows comment tail (skipSpace flags first) (skipSpace flags second) := by
  cases follows with
  | hidden marked =>
      rw [skipSpace_nil]
      exact .hidden marked
  | shown _ marked =>
      cases spaced : flags.spaced with
      | false =>
          rw [skipSpace_of_plain spaced, skipSpace_of_plain spaced]
          exact .shown first marked
      | true =>
          induction first using space_induction with
          | nil =>
              rw [List.nil_append, closing.skipSpace, skipSpace_nil]
              exact .shown [] marked
          | blank char rest isBlank ih =>
              rw [List.cons_append, skipSpace_blank spaced isBlank, skipSpace_blank spaced isBlank]
              exact ih fun among => marked (.tail _ among)
          | comment rest ih =>
              rw [List.cons_append, skipSpace_comment spaced, skipSpace_comment spaced]
              have commented : comment := marked (.head _)
              have after := Follows.afterComment closing rest commented
              generalize Regex.afterComment rest = left,
                Regex.afterComment (rest ++ tail) = right at after ih ⊢
              cases after with
              | shown => exact ih fun _ => commented
              | hidden =>
                  rw [skipSpace_nil]
                  exact .hidden commented
          | other char rest isBlank different =>
              rw [List.cons_append, skipSpace_other isBlank different,
                skipSpace_other isBlank different]
              exact .shown (char :: rest) marked

/-- Both sources begin alike, or the first one is at its end. -/
theorem Follows.head (closing : IsClosing tail) (follows : Follows comment tail first second) :
    (first = [] ∧ second = []) ∨
      (first = [] ∧ second = tail ∧
        ∃ anchors, tail = ')' :: anchors ∧ ∀ char ∈ anchors, char = '$') ∨
      ∃ char rest behind, first = char :: rest ∧ second = char :: behind ∧
        Follows comment tail rest behind := by
  cases follows with
  | hidden => exact .inl ⟨rfl, rfl⟩
  | shown _ marked =>
      cases first with
      | nil => exact .inr (.inl ⟨rfl, rfl, closing⟩)
      | cons char rest =>
          exact .inr (.inr ⟨char, rest, rest ++ tail, rfl, rfl,
            .shown rest fun among => marked (.tail _ among)⟩)

/-- Where nothing is left of a text, what is behind it is left, unless the text holds a comment. -/
theorem Follows.of_nil (follows : Follows comment tail [] second) :
    second = tail ∨ second = [] ∧ comment := by
  cases follows with
  | shown => exact .inl rfl
  | hidden marked => exact .inr ⟨rfl, marked⟩

theorem Follows.of_cons {char : Char} {rest : Source}
    (follows : Follows comment tail (char :: rest) second) :
    ∃ behind, second = char :: behind ∧ Follows comment tail rest behind := by
  cases follows with
  | shown _ marked =>
      exact ⟨rest ++ tail, rfl, .shown rest fun among => marked (.tail _ among)⟩

/-- What does not begin with a character does not do so with more behind it. -/
theorem Follows.ne_cons {char : Char} (closing : IsClosing tail) (notParen : char ≠ ')')
    (follows : Follows comment tail first second) (other : ∀ rest, first ≠ char :: rest) :
    ∀ rest, second ≠ char :: rest := by
  rintro behind rfl
  rcases follows.head closing with ⟨-, nothing⟩ | ⟨-, rfl, anchors, same, -⟩ |
    ⟨next, rest, others, rfl, same, -⟩
  · cases nothing
  · exact notParen (List.cons.inj same).1
  · cases same
    exact other rest rfl

/-- Who has read some of a source has also read some of what follows it. -/
theorem Alike.shorter {α : Type} {read behind : α × Source}
    (follows : Follows comment tail first second)
    (alike : Alike comment tail first.length read behind) : behind.2.length < second.length := by
  rcases alike with ⟨-, goesOn, short⟩
  cases follows with
  | hidden => exact absurd short (Nat.not_lt_zero _)
  | shown =>
      rw [List.length_append]
      generalize read.2 = left, behind.2 = right at goesOn short
      cases goesOn with
      | shown =>
          rw [List.length_append]
          omega
      | hidden => exact Nat.lt_add_right _ short

theorem Alike.length_lt {α : Type} {bound : Nat} {read behind : α × Source}
    (alike : Alike comment tail bound read behind) : behind.2.length < bound + tail.length := by
  rcases alike with ⟨-, goesOn, short⟩
  generalize read.2 = left, behind.2 = right at goesOn short
  cases goesOn with
  | shown =>
      rw [List.length_append]
      omega
  | hidden => exact Nat.lt_add_right _ short

end Follows

theorem Tracks.widen {α : Type} {comment : Prop} {tail : Source} {bound wider : Nat}
    {late : α × Source → Prop} {first second : Option (α × Source)}
    (tracks : Tracks (Alike comment tail bound) late first second)
    (wide : bound ≤ wider) : Tracks (Alike comment tail wider) late first second :=
  tracks.mono (fun _ _ alike => ⟨alike.1, alike.2.1, alike.2.2.trans_le wide⟩) fun _ late => late

end Regex

end TagOrganizer
