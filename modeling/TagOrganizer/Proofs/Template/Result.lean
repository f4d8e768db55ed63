import TagOrganizer.Proofs.Evaluation
import TagOrganizer.Template.Substitution

/-!
# Results of formats

What evaluating a format gives, apart from what it tells: iteration spans are resolved, the tokens
are rendered, and an empty outcome is refused.
-/

namespace TagOrganizer

namespace Template

variable {file : TaggedFile} {resolver : Resolver}

/-- The spans are left out of a format unless an occurrence number is wanted outside of them. -/
theorem result_stripSpans (format : String) :
    (stripSpans format).result =
      partsOf format >>= fun parts =>
        if Token.occurrence ∈ plainTokens parts then .error (.occurrenceOutsideSpan format)
        else .ok (source (plainTokens parts)) := by
  unfold stripSpans
  rw [Evaluation.result_bind, Evaluation.result_except]
  congr 1
  funext parts
  by_cases wanted : Token.occurrence ∈ plainTokens parts
  · simp [wanted]
  · simp [wanted]

theorem result_numberSpans (format : String) (number : Nat) :
    (numberSpans format number).result =
      (partsOf format).map fun parts =>
        String.ofList ((unwrap parts).flatMap (numbered number)) := by
  unfold numberSpans
  rw [Evaluation.result_bind, Evaluation.result_except]
  cases partsOf format with
  | error error => rfl
  | ok parts =>
      rw [Except.ok_bind, Except.map_ok, Evaluation.result_bind, Evaluation.result_forIn_tell]
      rfl

/-- A format is evaluated to what its tokens come out as, unless one of the two is empty. -/
theorem result_substitute (format : String) (file : TaggedFile) (resolver : Resolver) :
    (substitute format file resolver).result =
      if format = "" then .error .emptyFormat
      else (render file resolver format (tokens (simplify format))).result >>= fun characters =>
        if characters = [] then .error (.emptyResult format)
        else .ok (String.ofList characters) := by
  unfold substitute
  by_cases blank : format = ""
  · simp [blank]
  · simp only [String.isEmpty_iff, blank, if_false, Evaluation.result_bind]
    congr 1
    funext characters
    by_cases slash : characters.contains '/' = true <;> cases characters <;> simp_all

theorem substitute_ne_empty {format name : String}
    (evaluated : (substitute format file resolver).result = .ok name) : name ≠ "" := by
  rw [result_substitute] at evaluated
  split at evaluated
  · cases evaluated
  · rcases Except.bind_eq_ok_iff.1 evaluated with ⟨characters, -, named⟩
    split at named
    · cases named
    · rename_i filled
      cases named
      simpa using filled

theorem nameAlone_ne_empty {format name : String}
    (evaluated : (nameAlone format file resolver).result = .ok name) : name ≠ "" := by
  unfold nameAlone at evaluated
  rw [Evaluation.result_bind] at evaluated
  rcases Except.bind_eq_ok_iff.1 evaluated with ⟨stripped, -, substituted⟩
  exact substitute_ne_empty substituted

/-! ### Conditionals -/

section Conditional

variable {written rest : List Token} {conditional : Conditional} (file : TaggedFile)
  (resolver : Resolver) (format : String)

theorem render_of_readConditional? (read : readConditional? written = some (conditional, rest)) :
    render file resolver format (.conditionStart :: written) = do
      let holds ← ConditionSet.check file.tags resolver (source conditional.condition)
      let first ← emitAll file resolver format
        (if holds then conditional.branchTrue else conditional.branchFalse)
      let others ← render file resolver format rest
      return first ++ others := by
  rw [render, if_pos rfl]
  split
  · rename_i missing
    rw [read] at missing
    cases missing
  · rename_i found
    rw [read] at found
    cases found
    rfl

theorem render_of_not_readConditional? (missing : readConditional? written = none) :
    render file resolver format (.conditionStart :: written) =
      throw (.incompleteConditional format) := by
  rw [render, if_pos rfl]
  split
  · rfl
  · rename_i found
    rw [missing] at found
    cases found

end Conditional

/-! ### What formats do not depend on -/

section Decided

variable (file : TaggedFile) (outputName : String) (renameFailed : Bool) (resolver : Resolver)
  (format : String)

theorem emit_decided (token : Token) :
    emit { file with outputName, renameFailed } resolver format token =
      emit file resolver format token := by
  cases token <;> rfl

theorem emitAll_decided (tokens : List Token) :
    emitAll { file with outputName, renameFailed } resolver format tokens =
      emitAll file resolver format tokens := by
  induction tokens with
  | nil => rfl
  | cons token tokens ih => rw [emitAll, emitAll, emit_decided, ih]

theorem render_decided (tokens : List Token) :
    render { file with outputName, renameFailed } resolver format tokens =
      render file resolver format tokens := by
  fun_induction render file resolver format tokens with
  | case1 => rw [render]
  | case2 tokens missing => exact render_of_not_readConditional? _ resolver format missing
  | case3 tokens conditional rest read condition ih =>
      rw [render_of_readConditional? _ resolver format read]
      simp only [emitAll_decided, ih]
      rfl
  | case4 token tokens unconditional ih => rw [render, if_neg unconditional, emit_decided, ih]

theorem substitute_decided :
    substitute format { file with outputName, renameFailed } resolver =
      substitute format file resolver := by
  simp only [substitute, render_decided]

theorem nameAlone_decided :
    nameAlone format { file with outputName, renameFailed } resolver =
      nameAlone format file resolver := by
  simp only [nameAlone, substitute_decided]

/-- What a file is named does not depend on what has been decided about its name before. -/
theorem nameNumbered_decided (number : Nat) :
    nameNumbered format number { file with outputName, renameFailed } resolver =
      nameNumbered format number file resolver := by
  simp only [nameNumbered, substitute_decided]

end Decided

end Template

end TagOrganizer
