import TagOrganizer.Placement
import TagOrganizer.Proofs.Evaluation
import TagOrganizer.Proofs.Path.Join

/-!
# Walks over joined rules

A walk that has got somewhere in part goes on only for a complete placement. So the walk over rules
that follow each other is the walk over the first of them, and if this is not complete the better
one of it and of the walk over the others (`result_bestOf_append`).
-/

namespace TagOrganizer

namespace Placement

variable {file : TaggedFile} {resolver : Resolver}

/-- The better one of two placements, of which the first has priority. -/
def orElse (placement other : Placement) : Placement :=
  if placement.complete then placement
  else if other.complete then other
  else if placement.isMiss then other
  else placement

/-- The placement at a path that has been kept, if any. -/
def ofKept (kept : Option Path) : Placement :=
  (kept.map fun path => ⟨false, path⟩).getD miss

/-- What a walk keeps of a placement that is not complete. -/
def keep? (placement : Placement) : Option Path :=
  if placement.isMiss then none else some placement.path

theorem isMiss_eq (placement : Placement) :
    placement.isMiss = (!placement.complete && placement.path.isEmpty) := rfl

@[simp]
theorem complete_ofKept (kept : Option Path) : (ofKept kept).complete = false := by
  cases kept <;> rfl

theorem ofKept_keep? {placement : Placement} (incomplete : placement.complete = false) :
    ofKept placement.keep? = placement := by
  rcases placement with ⟨complete, path⟩
  cases incomplete
  rw [keep?, isMiss_eq]
  cases empty : path.isEmpty with
  | true =>
      rw [Path.isEmpty_iff.1 empty]
      rfl
  | false => rfl

theorem keep?_ofKept {kept : Option Path} (filled : ∀ path ∈ kept, path.isEmpty = false) :
    (ofKept kept).keep? = kept := by
  cases kept with
  | none => rfl
  | some path => simp [ofKept, keep?, isMiss_eq, filled path rfl]

theorem filled_of_keep? {placement : Placement} (incomplete : placement.complete = false) :
    ∀ path ∈ placement.keep?, path.isEmpty = false := by
  intro path kept
  rw [keep?, isMiss_eq, incomplete] at kept
  split at kept
  · cases kept
  · rename_i somewhere
    cases kept
    simpa using somewhere

theorem orElse_of_complete {placement : Placement} (incomplete : placement.complete = false)
    {other : Placement} (complete : other.complete = true) : placement.orElse other = other := by
  simp [orElse, incomplete, complete]

@[simp]
theorem miss_orElse (other : Placement) : miss.orElse other = other := by
  unfold orElse
  cases other.complete <;> rfl

theorem ofKept_orElse_miss {kept : Option Path} (filled : ∀ path ∈ kept, path.isEmpty = false) :
    (ofKept kept).orElse miss = ofKept kept := by
  cases kept with
  | none => rfl
  | some path => simp [orElse, ofKept, isMiss_eq, miss, filled path rfl]

/-- A placement that has got somewhere is better than another one and what comes behind that. -/
theorem ofKept_some_orElse_orElse {path further : Path} (filled : path.isEmpty = false)
    (filledFurther : further.isEmpty = false) (other : Placement) :
    (ofKept (some path)).orElse ((ofKept (some further)).orElse other) =
      (ofKept (some path)).orElse other := by
  cases complete : other.complete <;>
    simp [orElse, ofKept, isMiss_eq, complete, filled, filledFurther]

/-! ### Walks -/

/-- Finding a place is walking through the rules, if there are any. -/
theorem result_find (file : TaggedFile) (rules : List MovementRule) (resolver : Resolver) :
    (find file rules resolver).result =
      if rules.isEmpty then .error .emptyMovement
      else (bestOf file resolver none rules).result := by
  unfold find
  cases empty : rules.isEmpty with
  | true => simp
  | false =>
      simp only [Bool.false_eq_true, if_false, Evaluation.result_bind]
      cases (bestOf file resolver none rules).result with
      | error error => rfl
      | ok found =>
          cases complete : found.complete <;> cases missed : found.isMiss <;>
            simp [complete, missed]

theorem result_bestOf_cons (kept : Option Path) (rule : MovementRule)
    (rules : List MovementRule) :
    (bestOf file resolver kept (rule :: rules)).result =
      (ofRule file resolver rule).result >>= fun found =>
        if found.complete then .ok found
        else if kept.isNone && !found.path.isEmpty then
          (bestOf file resolver (some found.path) rules).result
        else (bestOf file resolver kept rules).result := by
  rw [bestOf, Evaluation.result_bind]
  congr 1
  funext found
  split
  · rfl
  · split <;> rfl

/-- What has been kept is what a walk comes to unless it gets to a complete placement. -/
theorem result_bestOf {kept : Option Path} (filled : ∀ path ∈ kept, path.isEmpty = false)
    (rules : List MovementRule) :
    (bestOf file resolver kept rules).result =
      (bestOf file resolver none rules).result.map (ofKept kept).orElse := by
  induction rules generalizing kept with
  | nil => exact congrArg Except.ok (ofKept_orElse_miss filled).symm
  | cons rule rules ih =>
      rw [result_bestOf_cons, result_bestOf_cons]
      cases (ofRule file resolver rule).result with
      | error error => rfl
      | ok found =>
          simp only [Except.ok_bind]
          cases complete : found.complete with
          | true => simp [orElse_of_complete, complete]
          | false =>
              cases kept with
              | none =>
                  have identity : (ofKept none).orElse = id := funext miss_orElse
                  rw [identity]
                  simp
              | some path =>
                  cases empty : found.path.isEmpty with
                  | true => simpa [empty] using ih filled
                  | false =>
                      have further : ∀ other ∈ some found.path, other.isEmpty = false := by
                        simpa using empty
                      simp only [Option.isNone_some, Option.isNone_none, Bool.false_and,
                        Bool.true_and, Bool.not_false, Bool.false_eq_true, if_false, if_true]
                      -- Both walks go on; what the second one keeps is behind what was kept before.
                      rw [ih filled, ih further]
                      cases (bestOf file resolver none rules).result with
                      | error error => rfl
                      | ok last =>
                          have better := ofKept_some_orElse_orElse (filled path rfl) empty last
                          exact congrArg Except.ok better.symm

/-- A walk over two lists of rules goes on behind the first unless it is complete there. -/
theorem result_bestOf_append_of_kept {kept : Option Path}
    (filled : ∀ path ∈ kept, path.isEmpty = false) (front back : List MovementRule) :
    (bestOf file resolver kept (front ++ back)).result =
      (bestOf file resolver kept front).result >>= fun found =>
        if found.complete then .ok found
        else (bestOf file resolver found.keep? back).result := by
  induction front generalizing kept with
  | nil =>
      have resumed : (ofKept kept).keep? = kept := keep?_ofKept filled
      have start : (bestOf file resolver kept []).result = .ok (ofKept kept) := rfl
      rw [List.nil_append, start, Except.ok_bind, complete_ofKept, resumed]
      rfl
  | cons rule front ih =>
      rw [List.cons_append, result_bestOf_cons, result_bestOf_cons]
      cases (ofRule file resolver rule).result with
      | error error => rfl
      | ok found =>
          simp only [Except.ok_bind]
          cases complete : found.complete with
          | true => simp [complete]
          | false =>
              simp only [Bool.false_eq_true, if_false]
              split
              · rename_i first
                rw [Bool.and_eq_true, Bool.not_eq_true'] at first
                exact ih (by simpa using first.2)
              · exact ih filled

theorem result_bestOf_append (front back : List MovementRule) :
    (bestOf file resolver none (front ++ back)).result =
      (bestOf file resolver none front).result >>= fun found =>
        if found.complete then .ok found
        else (bestOf file resolver none back).result.map found.orElse := by
  rw [result_bestOf_append_of_kept (by simp)]
  congr 1
  funext found
  cases complete : found.complete with
  | true => rfl
  | false =>
      simp only [Bool.false_eq_true, if_false]
      rw [result_bestOf (filled_of_keep? complete), ofKept_keep? complete]

end Placement

end TagOrganizer
