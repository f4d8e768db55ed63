import TagOrganizer.Proofs.Evaluation

/-!
# Ends of acts

How an act ends does not depend on what it tells: with a value or an error, and in a state. Acts end
step by step, and an act of several steps that succeeds is taken apart at the states between them.
-/

namespace TagOrganizer

namespace Act

variable {σ α β : Type}

/-- How an act ends from a state: its result and the state after it. -/
def ends (act : Act σ α) (state : σ) : Except Error α × σ :=
  (act.perform state).value

@[simp]
theorem ends_pure (value : α) (state : σ) :
    (pure value : Act σ α).ends state = (.ok value, state) := rfl

@[simp]
theorem ends_tell (event : Event) (state : σ) :
    (tell event : Act σ Unit).ends state = (.ok (), state) := rfl

@[simp]
theorem ends_logged (computation : Logged α) (state : σ) :
    (liftM computation : Act σ α).ends state = (.ok computation.value, state) := rfl

@[simp]
theorem ends_evaluation (evaluation : Evaluation α) (state : σ) :
    (liftM evaluation : Act σ α).ends state = (evaluation.result, state) := rfl

@[simp]
theorem ends_get (state : σ) : (get : Act σ σ).ends state = (.ok state, state) := rfl

@[simp]
theorem ends_set (state after : σ) : (set after : Act σ Unit).ends state = (.ok (), after) := rfl

@[simp]
theorem ends_modify (change : σ → σ) (state : σ) :
    (modify change : Act σ Unit).ends state = (.ok (), change state) := rfl

theorem ends_bind (first : Act σ α) (next : α → Act σ β) (state : σ) :
    (first >>= next).ends state =
      match first.ends state with
      | (.ok value, between) => (next value).ends between
      | (.error error, after) => (.error error, after) := by
  simp only [ends, perform, ExceptT.run_bind, StateT.run_bind, Logged.value_bind]
  rcases (StateT.run (ExceptT.run first) state).value with ⟨result, between⟩
  cases result with
  | ok value => rfl
  | error error => rfl

/-- An act of two steps tells what its steps tell. -/
theorem log_bind (first : Act σ α) (next : α → Act σ β) (state : σ) :
    ((first >>= next).perform state).log =
      (first.perform state).log ++
        match (first.perform state).value with
        | (.ok value, between) => ((next value).perform between).log
        | (.error _, _) => [] := by
  simp only [perform, ExceptT.run_bind, StateT.run_bind, Logged.log_bind]
  rcases (StateT.run (ExceptT.run first) state).value with ⟨result, between⟩
  cases result with
  | ok value => rfl
  | error error => rfl

/-- An act of two steps succeeds iff both steps do, one after the other. -/
theorem ends_bind_eq_ok_iff {first : Act σ α} {next : α → Act σ β} {state after : σ} {value : β} :
    (first >>= next).ends state = (.ok value, after) ↔
      ∃ middle between, first.ends state = (.ok middle, between) ∧
        (next middle).ends between = (.ok value, after) := by
  rw [ends_bind]
  rcases first.ends state with ⟨result, between⟩
  cases result with
  | ok middle => simp
  | error error => simp

/-! ### What acts keep -/

/-- Whether an act keeps a property of states, however it ends. -/
def Keeps (keeps : σ → Prop) (act : Act σ α) : Prop :=
  ∀ state, keeps state → keeps (act.ends state).2

variable {keeps : σ → Prop}

theorem keeps_pure (value : α) : Keeps keeps (pure value : Act σ α) :=
  fun _ holds => holds

theorem keeps_throw (error : Error) : Keeps keeps (throw error : Act σ α) :=
  fun _ holds => holds

theorem keeps_tell (event : Event) : Keeps keeps (tell event : Act σ Unit) :=
  fun _ holds => holds

theorem keeps_get : Keeps keeps (get : Act σ σ) :=
  fun _ holds => holds

theorem keeps_modify {change : σ → σ} (kept : ∀ state, keeps state → keeps (change state)) :
    Keeps keeps (modify change : Act σ Unit) :=
  kept

theorem keeps_set {state : σ} (holds : keeps state) :
    Keeps keeps (set state : Act σ Unit) :=
  fun _ _ => holds

theorem keeps_evaluation (evaluation : Evaluation α) :
    Keeps keeps (liftM evaluation : Act σ α) :=
  fun _ holds => holds

theorem keeps_logged (computation : Logged α) :
    Keeps keeps (liftM computation : Act σ α) :=
  fun _ holds => holds

theorem keeps_except (computation : Except Error α) :
    Keeps keeps (liftM computation : Act σ α) := by
  cases computation with
  | ok value => exact keeps_pure value
  | error error => exact keeps_throw error

theorem keeps_bind {first : Act σ α} {next : α → Act σ β} (kept : Keeps keeps first)
    (keptNext : ∀ value, Keeps keeps (next value)) : Keeps keeps (first >>= next) := by
  intro state holds
  have between := kept state holds
  rw [ends_bind]
  revert between
  rcases first.ends state with ⟨result, middle⟩
  intro between
  cases result with
  | ok value => exact keptNext value middle between
  | error error => exact between

theorem keeps_mapM {step : α → Act σ β} {items : List α}
    (kept : ∀ item ∈ items, Keeps keeps (step item)) : Keeps keeps (items.mapM step) := by
  induction items with
  | nil => exact keeps_pure []
  | cons item items ih =>
      rw [List.mapM_cons]
      apply keeps_bind (kept item (by simp))
      intro value
      apply keeps_bind (ih fun other present => kept other (by simp [present]))
      intro values
      exact keeps_pure _

theorem keeps_forIn {step : α → β → Act σ (ForInStep β)} {items : List α} {start : β}
    (kept : ∀ item ∈ items, ∀ value, Keeps keeps (step item value)) :
    Keeps keeps (forIn items start step) := by
  induction items generalizing start with
  | nil => exact keeps_pure start
  | cons item items ih =>
      rw [List.forIn_cons]
      apply keeps_bind (kept item (by simp) start)
      intro next
      cases next with
      | done value => exact keeps_pure value
      | yield value => exact ih fun other present => kept other (by simp [present])

end Act

end TagOrganizer
