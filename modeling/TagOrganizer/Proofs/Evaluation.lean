import Mathlib.Data.List.Forall2
import TagOrganizer.Logged

/-!
# Results of evaluations

The result of an evaluation does not depend on what it tells. Taking results turns an evaluation
into a computation that can only fail, step by step, so that statements about results never have to
mention events.
-/

namespace TagOrganizer

/-- Each item has a value of its own iff a list of values fits the list of items. -/
theorem List.exists_forall₂_iff {α β : Type} {fits : α → β → Prop} {items : List α} :
    (∃ values, List.Forall₂ fits items values) ↔ ∀ item ∈ items, ∃ value, fits item value := by
  induction items with
  | nil => simp
  | cons item items ih =>
      rw [List.forall_mem_cons, ← ih]
      constructor
      · rintro ⟨_, _ | ⟨first, rest⟩⟩
        exact ⟨⟨_, first⟩, _, rest⟩
      · rintro ⟨⟨value, first⟩, values, rest⟩
        exact ⟨value :: values, .cons first rest⟩

namespace Except

variable {ε α β : Type}

/-- A computation of two steps succeeds iff both steps do. -/
theorem bind_eq_ok_iff {first : Except ε α} {next : α → Except ε β} {value : β} :
    (first >>= next) = .ok value ↔ ∃ middle, first = .ok middle ∧ next middle = .ok value := by
  cases first with
  | error error => simp [bind, Except.bind]
  | ok middle => simp [bind, Except.bind]

theorem map_eq_ok_iff {computation : Except ε α} {change : α → β} {value : β} :
    computation.map change = .ok value ↔ ∃ before, computation = .ok before ∧
      change before = value := by
  cases computation with
  | error error => simp [Except.map]
  | ok before => simp [Except.map]

theorem mapError_eq_ok_iff {computation : Except ε α} {change : ε → β} {value : α} :
    computation.mapError change = .ok value ↔ computation = .ok value := by
  cases computation with
  | error error => simp [Except.mapError]
  | ok before => simp [Except.mapError]

/-- A list is computed item by item. -/
theorem mapM_eq_ok_iff {change : α → Except ε β} {items : List α} {values : List β} :
    items.mapM change = .ok values ↔
      List.Forall₂ (fun item value => change item = .ok value) items values := by
  constructor
  · intro computed
    induction items generalizing values with
    | nil =>
        cases computed
        exact List.Forall₂.nil
    | cons item items ih =>
        rw [List.mapM_cons] at computed
        rcases bind_eq_ok_iff.1 computed with ⟨value, first, computed⟩
        rcases bind_eq_ok_iff.1 computed with ⟨others, rest, paired⟩
        cases paired
        exact List.Forall₂.cons first (ih rest)
  · intro pairs
    induction pairs with
    | nil => rfl
    | cons first _ ih =>
        rw [List.mapM_cons, first, ih]
        rfl

@[simp]
theorem ok_bind (value : α) (next : α → Except ε β) :
    ((.ok value : Except ε α) >>= next) = next value := rfl

@[simp]
theorem map_ok (change : α → β) (value : α) :
    (.ok value : Except ε α).map change = .ok (change value) := rfl

@[simp]
theorem error_bind (error : ε) (next : α → Except ε β) :
    ((.error error : Except ε α) >>= next) = .error error := rfl

end Except

namespace Logged

@[simp]
theorem value_tell (event : Event) : (tell event).value = () := rfl

/-- Whether all items pass does not depend on what is told. -/
theorem value_allM {α : Type} (check : α → Logged Bool) (items : List α) :
    (items.allM check).value = items.all fun item => (check item).value := by
  induction items with
  | nil => rfl
  | cons item items ih =>
      rw [List.allM_cons, value_bind, List.all_cons]
      cases passed : (check item).value <;> simp [ih]

theorem value_anyM {α : Type} (check : α → Logged Bool) (items : List α) :
    (items.anyM check).value = items.any fun item => (check item).value := by
  induction items with
  | nil => rfl
  | cons item items ih =>
      rw [List.anyM_cons, value_bind, List.any_cons]
      cases passed : (check item).value <;> simp [ih]

theorem value_findM? {α : Type} (check : α → Logged Bool) (items : List α) :
    (items.findM? check).value = items.find? fun item => (check item).value := by
  induction items with
  | nil => rfl
  | cons item items ih =>
      rw [List.findM?, value_bind, List.find?_cons]
      cases passed : (check item).value <;> simp [ih]

@[simp]
theorem value_map {α β : Type} (change : α → β) (computation : Logged α) :
    (change <$> computation).value = change computation.value := rfl

end Logged

namespace Evaluation

variable {α β : Type}

@[simp]
theorem result_pure (value : α) : (pure value : Evaluation α).result = .ok value := rfl

@[simp]
theorem result_throw (error : Error) : (throw error : Evaluation α).result = .error error := rfl

@[simp]
theorem result_tell (event : Event) : (tell event : Evaluation Unit).result = .ok () := rfl

@[simp]
theorem result_bind (first : Evaluation α) (next : α → Evaluation β) :
    (first >>= next).result = first.result >>= fun value => (next value).result := by
  cases ended : first.result with
  | error error =>
      simp only [result] at ended ⊢
      rw [ExceptT.run_bind, Logged.value_bind, ended]
      rfl
  | ok value =>
      simp only [result] at ended ⊢
      rw [ExceptT.run_bind, Logged.value_bind, ended]
      rfl

@[simp]
theorem result_map (change : α → β) (evaluation : Evaluation α) :
    (change <$> evaluation).result = evaluation.result.map change := by
  rw [map_eq_pure_bind, result_bind]
  cases evaluation.result <;> rfl

@[simp]
theorem result_logged (computation : Logged α) :
    (liftM computation : Evaluation α).result = .ok computation.value := rfl

@[simp]
theorem result_except (computation : Except Error α) :
    (liftM computation : Evaluation α).result = computation := rfl

theorem result_mapM (change : α → Evaluation β) (items : List α) :
    (items.mapM change).result = items.mapM fun item => (change item).result := by
  induction items with
  | nil => rfl
  | cons item items ih =>
      rw [List.mapM_cons, List.mapM_cons, result_bind]
      congr 1
      funext value
      rw [result_bind, ih]
      rfl

theorem result_allM (check : α → Evaluation Bool) (items : List α) :
    (items.allM check).result = items.allM fun item => (check item).result := by
  induction items with
  | nil => rfl
  | cons item items ih =>
      rw [List.allM_cons, List.allM_cons, result_bind]
      congr 1
      funext passed
      cases passed with
      | true => exact ih
      | false => rfl

theorem result_anyM (check : α → Evaluation Bool) (items : List α) :
    (items.anyM check).result = items.anyM fun item => (check item).result := by
  induction items with
  | nil => rfl
  | cons item items ih =>
      rw [List.anyM_cons, List.anyM_cons, result_bind]
      congr 1
      funext passed
      cases passed with
      | true => rfl
      | false => exact ih

/-- Telling the same for each of some items changes no result. -/
theorem result_forIn_tell (event : Event) (items : List α) :
    (forIn items PUnit.unit fun _ _ => do
      tell event
      pure (ForInStep.yield PUnit.unit) : Evaluation PUnit).result = .ok PUnit.unit := by
  induction items with
  | nil => rfl
  | cons item items ih =>
      rw [List.forIn_cons, result_bind, result_bind]
      exact ih

end Evaluation

end TagOrganizer
