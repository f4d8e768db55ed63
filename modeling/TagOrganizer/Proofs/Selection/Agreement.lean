import Mathlib
import TagOrganizer.Proofs.Selection.Meaning
import TagOrganizer.Proofs.Selection.Reading

/-!
# Two ways to evaluate a filter

A filter may be read first and evaluated later, or be read as far as its evaluation gets. If it can
be read as a whole, both give the same: what the filter says about the tags, or the error of a
filter without condition sets. If its evaluation meets a text that cannot be read, the filter cannot
be read as a whole either; the converse fails, as evaluation stops at the first decision.
-/

namespace TagOrganizer

variable {tags : List String} {resolver : Resolver}

/-- A condition set whose evaluation fails cannot be read as a whole. -/
theorem ConditionSet.exists_error_of_check {text : String} {error : Error}
    (failed : (check tags resolver text).result = .error error) :
    ∃ other, (parse text).result = .error other := by
  cases read : (parse text).result with
  | error other => exact ⟨other, rfl⟩
  | ok set =>
      rw [result_check_of_parse read] at failed
      cases failed

namespace Filter

theorem sets_eq_nil_iff {texts : List String} {filter : Filter}
    (parsed : (parse texts).result = .ok filter) : filter.sets = [] ↔ texts = [] := by
  have lengths := (forall₂_of_parse parsed).length_eq
  rw [← List.length_eq_zero_iff, ← List.length_eq_zero_iff, lengths]

theorem result_holds (filter : Filter) :
    (filter.holds tags resolver).result =
      if filter.sets = [] then .error .emptyFilter
      else .ok (filter.sets.any fun set => (set.holds tags resolver).value) := by
  unfold holds isEmpty
  by_cases blank : filter.sets = []
  · simp [blank]
  · have decided := Logged.value_findM? (fun set => set.holds tags resolver) filter.sets
    simp only [List.isEmpty_iff, blank, if_false, Evaluation.result_bind,
      Evaluation.result_logged, Except.ok_bind, decided]
    cases found : filter.sets.find? fun set => (set.holds tags resolver).value with
    | none =>
        have missed : (filter.sets.any fun set => (set.holds tags resolver).value) = false := by
          simpa [List.any_eq_false] using found
        simp [missed]
    | some set =>
        have passed : (set.holds tags resolver).value = true := by
          simpa using List.find?_some found
        have matched : (filter.sets.any fun set => (set.holds tags resolver).value) = true :=
          List.any_eq_true.2 ⟨set, List.mem_of_find?_eq_some found, passed⟩
        simp [matched]

theorem result_check (texts : List String) :
    (check tags resolver texts).result =
      if texts = [] then .error .emptyFilter
      else texts.anyM fun text => (ConditionSet.check tags resolver text).result := by
  unfold check
  by_cases blank : texts = []
  · simp [blank]
  · simp only [List.isEmpty_iff, blank, if_false]
    exact Evaluation.result_anyM _ _

/-- Condition sets that can be read are tried in order, up to the first one that holds. -/
theorem result_anyM_check {texts : List String} {sets : List ConditionSet}
    (read : List.Forall₂ (fun text set => (ConditionSet.parse text).result = .ok set) texts sets) :
    (texts.anyM fun text => (ConditionSet.check tags resolver text).result) =
      .ok (sets.any fun set => (set.holds tags resolver).value) := by
  induction read with
  | nil => rfl
  | @cons text set texts sets first rest ih =>
      rw [List.anyM_cons, List.any_cons, ConditionSet.result_check_of_parse first,
        Except.ok_bind, ih]
      cases (set.holds tags resolver).value with
      | true => rfl
      | false => rfl

/-- A filter that can be read holds as it does when its condition sets are read one by one. -/
theorem result_check_of_parse {texts : List String} {filter : Filter}
    (parsed : (parse texts).result = .ok filter) :
    (check tags resolver texts).result = (filter.holds tags resolver).result := by
  rw [result_check, result_holds, result_anyM_check (forall₂_of_parse parsed)]
  simp only [sets_eq_nil_iff parsed]

/-- A filter whose evaluation fails cannot be read as a whole, unless it has no condition set. -/
theorem exists_error_of_check {texts : List String} {error : Error} (filled : texts ≠ [])
    (failed : (check tags resolver texts).result = .error error) :
    ∃ other, (parse texts).result = .error other := by
  cases read : (parse texts).result with
  | error other => exact ⟨other, rfl⟩
  | ok filter =>
      have sets := mt (sets_eq_nil_iff read).1 filled
      rw [result_check_of_parse read, result_holds, if_neg sets] at failed
      cases failed

theorem any_holds_iff (picks : resolver.PicksFirst) (tags : List String) (filter : Filter) :
    (filter.sets.any fun set => (set.holds tags resolver).value) = true ↔
      ∃ set ∈ filter.sets, ∀ condition ∈ set.conditions,
        condition.meets tags resolver.belongs = true := by
  simp only [List.any_eq_true, ConditionSet.value_holds picks, List.all_eq_true]

/--
Filters and condition sets that can be read as a whole are evaluated to the same while they are
read: a filter to whether all conditions of one of its sets are met, a set to whether all of its
conditions are. If the evaluation fails, what is evaluated cannot be read as a whole; a filter
without condition sets can be read, and fails to be evaluated either way.
-/
theorem result_check_eq_result_holds (tags : List String) (resolver : Resolver) :
    (∀ texts filter, (parse texts).result = .ok filter →
      (check tags resolver texts).result = (filter.holds tags resolver).result ∧
      (texts = [] → (filter.holds tags resolver).result = .error .emptyFilter) ∧
      (texts ≠ [] → ∃ verdict, (filter.holds tags resolver).result = .ok verdict ∧
        (resolver.PicksFirst → (verdict = true ↔ ∃ set ∈ filter.sets,
          ∀ condition ∈ set.conditions, condition.meets tags resolver.belongs = true)))) ∧
    (∀ texts error, texts ≠ [] → (check tags resolver texts).result = .error error →
      ∃ other, (parse texts).result = .error other) ∧
    (∀ text set, (ConditionSet.parse text).result = .ok set →
      (ConditionSet.check tags resolver text).result = .ok (set.holds tags resolver).value ∧
      (resolver.PicksFirst → ((set.holds tags resolver).value = true ↔
        ∀ condition ∈ set.conditions, condition.meets tags resolver.belongs = true))) ∧
    (∀ text error, (ConditionSet.check tags resolver text).result = .error error →
      ∃ other, (ConditionSet.parse text).result = .error other) := by
  refine ⟨?_, ?_, ?_, ?_⟩
  · intro texts filter parsed
    refine ⟨result_check_of_parse parsed, ?_, ?_⟩
    · intro blank
      rw [result_holds, if_pos ((sets_eq_nil_iff parsed).2 blank)]
    · intro filled
      have sets := mt (sets_eq_nil_iff parsed).1 filled
      refine ⟨_, (result_holds filter).trans (if_neg sets), ?_⟩
      intro picks
      exact any_holds_iff picks tags filter
  · intro texts error filled failed
    exact exists_error_of_check filled failed
  · intro text set parsed
    refine ⟨ConditionSet.result_check_of_parse parsed, ?_⟩
    intro picks
    rw [ConditionSet.value_holds picks, List.all_eq_true]
  · intro text error failed
    exact ConditionSet.exists_error_of_check failed

section Letters

/-- One tag belongs to one group, and nothing else belongs to a group. -/
def letters : Resolver :=
  .ofMembership fun tag group => return tag == "a" && group == "g"

/-- A tag, or a group without another tag. -/
def alternatives : Filter :=
  ⟨[⟨[.tag "b"]⟩, ⟨[.not (.tag "c"), .group "g"]⟩]⟩

/-- The second condition set is met; a set that is cut short is refused either way. -/
theorem result_check_eq_result_holds_alternatives :
    (parse ["b", "/!|c/&|/G|g"]).result = .ok alternatives ∧ letters.PicksFirst ∧
      (check ["a"] letters ["b", "/!|c/&|/G|g"]).result = .ok true ∧
      (check ["a"] letters ["b", "/G|"]).result = .error (.malformedCondition "/G|") ∧
      ∃ error, (parse ["b", "/G|"]).result = .error error := by
  have parsed : (parse ["b", "/!|c/&|/G|g"]).result = .ok alternatives := by cbv
  have picks : letters.PicksFirst := Resolver.picksFirst_ofMembership _
  have failed : (check ["a"] letters ["b", "/G|"]).result =
      .error (.malformedCondition "/G|") := by
    cbv
  have met : ∃ set ∈ alternatives.sets, ∀ condition ∈ set.conditions,
      condition.meets ["a"] letters.belongs = true := by
    refine ⟨⟨[.not (.tag "c"), .group "g"]⟩, by simp [alternatives], ?_⟩
    simp [Condition.meets, letters, Resolver.belongs, Resolver.ofMembership]
  rcases result_check_eq_result_holds ["a"] letters with ⟨whole, stopped, -⟩
  rcases whole _ _ parsed with ⟨same, -, decided⟩
  rcases decided (by simp) with ⟨verdict, ended, meaning⟩
  rw [(meaning picks).2 met] at ended
  exact ⟨parsed, picks, same.trans ended, failed, stopped _ _ (by simp) failed⟩

end Letters

end Filter

end TagOrganizer
