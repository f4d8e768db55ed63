import Mathlib
import TagOrganizer.Regex.Shape

/-!
# What regular expressions match

An expression matches from some place of a text to others (`Spans`), by recursion on the expression
and without any order of preference. Where it begins at a place of a text, it ends at a later place
of the same text (`Spans.exists_behind`). A sequence matches iff its parts match one after the
other, however it is put together (`spans_sequence`).
-/

namespace TagOrganizer

namespace Regex

/-- `count` steps of a relation, one after the other. -/
def Rounds {α : Type} (step : α → α → Prop) : (count : Nat) → α → α → Prop
  | 0, first, last => last = first
  | count + 1, first, last => ∃ middle, step first middle ∧ Rounds step count middle last

/--
Whether an expression can match from one place of a text to another. A repetition that is said to
go on for at most fewer times than it has to goes on for as long as it has to.
-/
def Spans : Regex → Place → Place → Prop
  | empty => fun place later => later = place
  | one set => fun place later =>
      ∃ char ∈ place.rest.head?, set.has char = true ∧ place.next? = some later
  | look condition => fun place later => condition.holds place = true ∧ later = place
  | concat first second => fun place later =>
      ∃ middle, first.Spans place middle ∧ second.Spans middle later
  | alternate first second => fun place later =>
      first.Spans place later ∨ second.Spans place later
  | repetition body least most _ => fun place later =>
      ∃ count, least ≤ count ∧ (∀ bound ∈ most, count ≤ max least bound) ∧
        Rounds body.Spans count place later
  | group _ _ body => body.Spans

/-! ### Rounds -/

section Rounds

variable {α : Type} {step : α → α → Prop} {first middle last : α} {count more : Nat}

theorem Rounds.append (front : Rounds step count first middle)
    (back : Rounds step more middle last) : Rounds step (count + more) first last := by
  induction count generalizing first with
  | zero =>
      cases front
      rwa [Nat.zero_add]
  | succ count ih =>
      rcases front with ⟨next, here, front⟩
      rw [Nat.succ_add]
      exact ⟨next, here, ih front⟩

theorem exists_middle_of_rounds_add (rounds : Rounds step (count + more) first last) :
    ∃ middle, Rounds step count first middle ∧ Rounds step more middle last := by
  induction count generalizing first with
  | zero => exact ⟨first, rfl, by rwa [Nat.zero_add] at rounds⟩
  | succ count ih =>
      rw [Nat.succ_add] at rounds
      rcases rounds with ⟨next, here, rounds⟩
      rcases ih rounds with ⟨middle, front, back⟩
      exact ⟨middle, ⟨next, here, front⟩, back⟩

theorem reflTransGen_iff_exists_rounds :
    Relation.ReflTransGen step first last ↔ ∃ count, Rounds step count first last := by
  constructor
  · intro reached
    induction reached using Relation.ReflTransGen.head_induction_on with
    | refl => exact ⟨0, rfl⟩
    | head here _ ih =>
        rcases ih with ⟨count, rounds⟩
        exact ⟨count + 1, _, here, rounds⟩
  · rintro ⟨count, rounds⟩
    induction count generalizing first with
    | zero =>
        cases rounds
        exact .refl
    | succ count ih =>
        rcases rounds with ⟨next, here, rounds⟩
        exact .head here (ih rounds)

end Rounds

/-! ### Places of one text -/

/-- The place of a text between what is before it and what follows. -/
def Place.behind (front rest : List Char) : Place :=
  ⟨front.length, front.getLast?, rest⟩

namespace Place

theorem start_eq_behind (text : List Char) : start text = behind [] text := rfl

theorem next?_behind_eq_some_iff {front rest : List Char} {later : Place} :
    (behind front rest).next? = some later ↔
      ∃ char others, rest = char :: others ∧ later = behind (front ++ [char]) others := by
  cases rest with
  | nil => simp [behind, next?]
  | cons char others => simp [behind, next?, eq_comm]

theorem next?_behind_cons (front : List Char) (char : Char) (rest : List Char) :
    (behind front (char :: rest)).next? = some (behind (front ++ [char]) rest) :=
  next?_behind_eq_some_iff.2 ⟨char, rest, rfl, rfl⟩

end Place

theorem Spans.exists_behind {regex : Regex} {front rest : List Char} {later : Place}
    (spans : regex.Spans (.behind front rest) later) :
    ∃ middle others, rest = middle ++ others ∧ later = .behind (front ++ middle) others := by
  induction regex generalizing front rest later with
  | empty =>
      cases spans
      exact ⟨[], rest, rfl, by simp⟩
  | one set =>
      rcases spans with ⟨-, -, -, next⟩
      rcases Place.next?_behind_eq_some_iff.1 next with ⟨char, others, rfl, rfl⟩
      exact ⟨[char], others, rfl, rfl⟩
  | look condition =>
      cases spans.2
      exact ⟨[], rest, rfl, by simp⟩
  | concat first second ihFirst ihSecond =>
      rcases spans with ⟨middle, spansFirst, spansSecond⟩
      rcases ihFirst spansFirst with ⟨taken, left, rfl, rfl⟩
      rcases ihSecond spansSecond with ⟨more, others, rfl, rfl⟩
      exact ⟨taken ++ more, others, by simp, by simp⟩
  | alternate first second ihFirst ihSecond =>
      rcases spans with spansFirst | spansSecond
      · exact ihFirst spansFirst
      · exact ihSecond spansSecond
  | repetition body least most greedy ih =>
      rcases spans with ⟨count, -, -, rounds⟩
      induction count generalizing front rest with
      | zero =>
          cases rounds
          exact ⟨[], rest, rfl, by simp⟩
      | succ count ihCount =>
          rcases rounds with ⟨middle, spansBody, rounds⟩
          rcases ih spansBody with ⟨taken, left, rfl, rfl⟩
          rcases ihCount rounds with ⟨more, others, rfl, rfl⟩
          exact ⟨taken ++ more, others, by simp, by simp⟩
  | group number name body ih => exact ih spans

/-! ### Sequences -/

/-- Whether some expressions can match one after the other. -/
def SpansAll : List Regex → Place → Place → Prop
  | [] => fun place later => later = place
  | part :: parts => fun place later =>
      ∃ middle, part.Spans place middle ∧ SpansAll parts middle later

section Sequences

variable {place later : Place}

theorem spansAll_append (front back : List Regex) :
    SpansAll (front ++ back) place later ↔
      ∃ middle, SpansAll front place middle ∧ SpansAll back middle later := by
  induction front generalizing place with
  | nil => simp [SpansAll]
  | cons part front ih =>
      simp only [List.cons_append, SpansAll, ih]
      constructor
      · rintro ⟨first, here, middle, front, back⟩
        exact ⟨middle, ⟨first, here, front⟩, back⟩
      · rintro ⟨middle, ⟨first, here, front⟩, back⟩
        exact ⟨first, here, middle, front, back⟩

theorem spansAll_factors (regex : Regex) :
    SpansAll regex.factors place later ↔ regex.Spans place later := by
  induction regex generalizing place later with
  | empty => rfl
  | concat first second ihFirst ihSecond =>
      simp only [factors, spansAll_append, ihFirst, ihSecond]
      rfl
  | _ => simp [factors, SpansAll]

theorem spans_ofFactors (parts : List Regex) :
    (ofFactors parts).Spans place later ↔ SpansAll parts place later := by
  fun_induction ofFactors parts generalizing place with
  | case1 => rfl
  | case2 part => simp [SpansAll]
  | case3 part parts _ ih => simp only [Spans, SpansAll, ih]

theorem spans_sequence (parts : List Regex) :
    (sequence parts).Spans place later ↔ SpansAll parts place later := by
  rw [sequence, spans_ofFactors]
  induction parts generalizing place with
  | nil => rfl
  | cons part parts ih =>
      rw [List.flatMap_cons, spansAll_append]
      simp only [spansAll_factors, ih, SpansAll]

end Sequences

end Regex

end TagOrganizer
