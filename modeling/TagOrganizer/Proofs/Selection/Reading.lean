import TagOrganizer.Proofs.Evaluation
import TagOrganizer.Proofs.Text.Fragment
import TagOrganizer.Selection.Filter

/-!
# Reading condition sets

A condition set that can be read as a whole holds exactly if it holds when it is read condition by
condition (`result_check_of_parse`).
-/

namespace TagOrganizer

namespace ConditionSet

/-- The pieces of a condition set: its fragments that are not empty. -/
def pieces (text : String) : List String :=
  ((fragments text).filter fun piece => !piece.isEmpty).map String.ofList

theorem value_split (text : String) : (split text).value = pieces text := by
  unfold split pieces
  by_cases blank : text = ""
  · subst blank
    simp [fragments, Text.fragments]
  · simp only [String.isEmpty_iff, blank, if_false]
    split <;> rfl

theorem result_parse (text : String) :
    (parse text).result =
      if pieces text = [] then .error (.emptyConditionSet text)
      else ((pieces text).mapM Condition.parse).map ConditionSet.mk := by
  unfold parse
  simp only [Evaluation.result_bind, Evaluation.result_logged, value_split, Except.ok_bind,
    List.isEmpty_iff]
  split
  · rfl
  · simp only [Evaluation.result_bind, Evaluation.result_except, Evaluation.result_pure]
    cases (pieces text).mapM Condition.parse <;> rfl

theorem result_check (tags : List String) (resolver : Resolver) (text : String) :
    (check tags resolver text).result =
      if pieces text = [] then .error (.emptyConditionSet text)
      else (pieces text).allM fun piece => (Condition.check tags resolver piece).result := by
  unfold check
  simp only [Evaluation.result_bind, Evaluation.result_logged, value_split, Except.ok_bind,
    List.isEmpty_iff]
  split
  · rfl
  · exact Evaluation.result_allM _ _

end ConditionSet

theorem Condition.result_check (tags : List String) (resolver : Resolver) (text : String) :
    (check tags resolver text).result =
      (parse text).map fun condition => (condition.holds tags resolver).value := by
  unfold check
  rw [Evaluation.result_bind, Evaluation.result_except]
  cases parse text <;> rfl

theorem Condition.result_allM_check {tags : List String} {resolver : Resolver}
    {pieces : List String} {conditions : List Condition}
    (read : List.Forall₂ (fun piece condition => parse piece = .ok condition) pieces conditions) :
    (pieces.allM fun piece => (check tags resolver piece).result) =
      .ok (conditions.all fun condition => (condition.holds tags resolver).value) := by
  induction read with
  | nil => rfl
  | @cons piece condition pieces conditions first rest ih =>
      rw [List.allM_cons, List.all_cons, Condition.result_check, first, Except.map_ok,
        Except.ok_bind, ih]
      cases (condition.holds tags resolver).value with
      | true => rfl
      | false => rfl

namespace ConditionSet

/-- A condition set that can be read holds as it does when its conditions are read one by one. -/
theorem result_check_of_parse {tags : List String} {resolver : Resolver} {text : String}
    {set : ConditionSet} (parsed : (parse text).result = .ok set) :
    (check tags resolver text).result = .ok (set.holds tags resolver).value := by
  rw [result_parse] at parsed
  rw [result_check]
  split at parsed
  · cases parsed
  · rename_i filled
    rw [if_neg filled]
    cases read : (pieces text).mapM Condition.parse with
    | error error => simp [read, Except.map] at parsed
    | ok conditions =>
        rw [read, Except.map_ok] at parsed
        cases parsed
        rw [Condition.result_allM_check (Except.mapM_eq_ok_iff.1 read), holds, Logged.value_allM]

end ConditionSet

namespace Filter

theorem forall₂_of_parse {texts : List String} {filter : Filter}
    (parsed : (parse texts).result = .ok filter) :
    List.Forall₂ (fun text set => (ConditionSet.parse text).result = .ok set) texts
      filter.sets := by
  unfold parse at parsed
  rw [Evaluation.result_bind, Evaluation.result_mapM] at parsed
  rcases Except.bind_eq_ok_iff.1 parsed with ⟨sets, read, built⟩
  cases built
  exact Except.mapM_eq_ok_iff.1 read

end Filter

end TagOrganizer
