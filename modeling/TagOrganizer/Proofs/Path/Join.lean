import TagOrganizer.Path

/-!
# Joining paths

Joining is associative as long as no empty path takes part, so that a sequence of segments has one
joined path, in whichever order the joins are made.
-/

namespace TagOrganizer

namespace Path

theorem isEmpty_iff {path : Path} : path.isEmpty = true ↔ path = empty := by
  rcases path with ⟨text⟩
  simp [isEmpty, empty]

theorem isEmpty_eq_false_iff {path : Path} : path.isEmpty = false ↔ path.text ≠ "" := by
  rw [Bool.eq_false_iff, ne_eq, isEmpty_iff]
  rcases path with ⟨text⟩
  simp [empty]

@[simp]
theorem isEmpty_empty : empty.isEmpty = true := rfl

@[simp]
theorem empty_join (below : Path) : empty.join below = below := by
  simp [join]

theorem join_of_isAbsolute {path below : Path} (absolute : below.isAbsolute = true) :
    path.join below = below := by
  simp [join, absolute]

/-- What stands between a path and what is joined to it. -/
def gap (path : Path) : String :=
  if path.text.toList.getLast? = some '/' then "" else "/"

theorem join_of_relative {path below : Path} (relative : below.isAbsolute = false)
    (nonempty : path.isEmpty = false) :
    path.join below = ⟨path.text ++ path.gap ++ below.text⟩ := by
  unfold join gap
  simp only [relative, nonempty, Bool.false_eq_true, or_self, if_false]
  split
  · simp
  · rfl

/-- Nothing is lost by joining, and nothing becomes empty. -/
theorem isEmpty_join {path below : Path} (nonempty : below.isEmpty = false) :
    (path.join below).isEmpty = false := by
  rw [isEmpty_eq_false_iff] at nonempty ⊢
  unfold join
  split
  · exact nonempty
  · split
    · simp [nonempty]
    · simp

theorem isAbsolute_join {path below : Path} (nonempty : path.isEmpty = false)
    (relative : below.isAbsolute = false) : (path.join below).isAbsolute = path.isAbsolute := by
  rw [join_of_relative relative nonempty]
  rw [isEmpty_eq_false_iff] at nonempty
  simp [isAbsolute, List.head?_append, nonempty]

theorem gap_join {path below : Path} (nonempty : path.isEmpty = false)
    (relative : below.isAbsolute = false) (filled : below.isEmpty = false) :
    (path.join below).gap = below.gap := by
  rw [join_of_relative relative nonempty]
  rw [isEmpty_eq_false_iff] at filled
  simp [gap, filled]

/-- Joining is associative where none of the paths is empty. -/
theorem join_assoc {first second third : Path} (filledFirst : first.isEmpty = false)
    (filledSecond : second.isEmpty = false) :
    (first.join second).join third = first.join (second.join third) := by
  by_cases absoluteThird : third.isAbsolute = true
  · rw [join_of_isAbsolute absoluteThird, join_of_isAbsolute absoluteThird,
      join_of_isAbsolute absoluteThird]
  · rw [Bool.not_eq_true] at absoluteThird
    by_cases absoluteSecond : second.isAbsolute = true
    · have absolute : (second.join third).isAbsolute = true := by
        rw [isAbsolute_join filledSecond absoluteThird, absoluteSecond]
      rw [join_of_isAbsolute absoluteSecond, join_of_isAbsolute absolute]
    · rw [Bool.not_eq_true] at absoluteSecond
      have relative : (second.join third).isAbsolute = false := by
        rw [isAbsolute_join filledSecond absoluteThird, absoluteSecond]
      rw [join_of_relative absoluteThird (isEmpty_join filledSecond),
        join_of_relative relative filledFirst,
        gap_join filledFirst absoluteSecond filledSecond,
        join_of_relative absoluteSecond filledFirst,
        join_of_relative absoluteThird filledSecond]
      simp [String.append_assoc]

/-- The path of several segments; empty segments are skipped. -/
def joinAll (segments : List Path) : Path :=
  (segments.filter fun segment => !segment.isEmpty).foldl join empty

@[simp]
theorem joinAll_nil : joinAll [] = empty := rfl

theorem joinAll_cons_of_isEmpty {segment : Path} (skipped : segment.isEmpty = true)
    (segments : List Path) : joinAll (segment :: segments) = joinAll segments := by
  simp [joinAll, skipped]

theorem isEmpty_foldl_join {first : Path} {segments : List Path}
    (filledFirst : first.isEmpty = false)
    (filled : ∀ segment ∈ segments, segment.isEmpty = false) :
    (segments.foldl join first).isEmpty = false := by
  induction segments generalizing first with
  | nil => exact filledFirst
  | cons segment segments ih =>
      apply ih (isEmpty_join (filled segment (by simp)))
      intro other present
      exact filled other (by simp [present])

/-- Joins that go on at the end can be begun later. -/
theorem foldl_join {first second : Path} {segments : List Path}
    (filledFirst : first.isEmpty = false) (filledSecond : second.isEmpty = false)
    (filled : ∀ segment ∈ segments, segment.isEmpty = false) :
    segments.foldl join (first.join second) = first.join (segments.foldl join second) := by
  induction segments generalizing second with
  | nil => rfl
  | cons segment segments ih =>
      have filledSegment := filled segment (by simp)
      simp only [List.foldl_cons]
      rw [join_assoc filledFirst filledSecond]
      apply ih (isEmpty_join filledSegment)
      intro other present
      exact filled other (by simp [present])

theorem foldl_join_eq {segment : Path} {others : List Path} (filled : segment.isEmpty = false)
    (filledOthers : ∀ other ∈ others, other.isEmpty = false) :
    others.foldl join segment =
      if (others.foldl join empty).isEmpty then segment
      else segment.join (others.foldl join empty) := by
  cases others with
  | nil => simp
  | cons other rest =>
      have filledOther := filledOthers other (by simp)
      have filledRest : ∀ another ∈ rest, another.isEmpty = false := by
        intro another present
        exact filledOthers another (by simp [present])
      have whole := isEmpty_foldl_join filledOther filledRest
      simp only [List.foldl_cons, empty_join, whole, Bool.false_eq_true, if_false]
      exact foldl_join filled filledOther filledRest

/-- The path of several segments is the first one joined with the path of the others. -/
theorem joinAll_cons {segment : Path} (filled : segment.isEmpty = false) (segments : List Path) :
    joinAll (segment :: segments) =
      if (joinAll segments).isEmpty then segment else segment.join (joinAll segments) := by
  have skipped : (segment :: segments).filter (fun other => !other.isEmpty) =
      segment :: segments.filter fun other => !other.isEmpty := by
    simp [filled]
  unfold joinAll
  rw [skipped, List.foldl_cons, empty_join]
  apply foldl_join_eq filled
  intro other present
  simpa using (List.mem_filter.1 present).2

theorem isEmpty_joinAll_cons {segment : Path} (filled : segment.isEmpty = false)
    (segments : List Path) : (joinAll (segment :: segments)).isEmpty = false := by
  rw [joinAll_cons filled]
  split
  · exact filled
  · rename_i below
    exact isEmpty_join (by simpa using below)

end Path

end TagOrganizer
