import TagOrganizer.FileTree.Operation

/-!
# What is left untouched

An act may do nothing to a disk but write down what it tells (`OnlyTells`). Where no journal is kept
such an act leaves the disk as it is. The rules hold of acts on any state that has a disk in it, so
that operations and whole runs share them.
-/

namespace TagOrganizer

namespace Disk

theorem noteAll_append (disk : Disk) (first second : List Event) :
    disk.noteAll (first ++ second) = (disk.noteAll first).noteAll second :=
  List.foldl_append

theorem noteAll_of_unkept {disk : Disk} (unkept : disk.journal = none) (events : List Event) :
    disk.noteAll events = disk := by
  rcases disk with ⟨tree, journal⟩
  cases unkept
  exact noteAll_bare tree events

end Disk

namespace Act

variable {σ α β : Type} {disk : σ → Disk}

/-- Whether all that an act does to the disk in a state is to write down what it tells. -/
def OnlyTells (disk : σ → Disk) (act : Act σ α) : Prop :=
  ∀ state, disk (act.perform state).value.2 = (disk state).noteAll (act.perform state).log

theorem onlyTells_pure (value : α) : OnlyTells disk (pure value : Act σ α) :=
  fun _ => rfl

theorem onlyTells_throw (error : Error) : OnlyTells disk (throw error : Act σ α) :=
  fun _ => rfl

theorem onlyTells_bind {first : Act σ α} {next : α → Act σ β} (untouched : OnlyTells disk first)
    (further : ∀ value, OnlyTells disk (next value)) : OnlyTells disk (first >>= next) := by
  intro state
  have early := untouched state
  simp only [perform, ExceptT.run_bind, StateT.run_bind, Logged.value_bind, Logged.log_bind]
    at early ⊢
  rw [Disk.noteAll_append, ← early]
  rcases (StateT.run (ExceptT.run first) state).value with ⟨result, between⟩
  cases result with
  | ok value => exact further value between
  | error error => rfl

theorem onlyTells_mapM {step : α → Act σ β} {items : List α}
    (untouched : ∀ item ∈ items, OnlyTells disk (step item)) :
    OnlyTells disk (items.mapM step) := by
  induction items with
  | nil => exact onlyTells_pure []
  | cons item items ih =>
      rw [List.mapM_cons]
      refine onlyTells_bind (untouched item (by simp)) fun value => ?_
      refine onlyTells_bind (ih fun other present => untouched other (by simp [present])) ?_
      exact fun values => onlyTells_pure _

theorem onlyTells_foldlM {step : β → α → Act σ β} {items : List α} (start : β)
    (untouched : ∀ state, ∀ item ∈ items, OnlyTells disk (step state item)) :
    OnlyTells disk (items.foldlM step start) := by
  induction items generalizing start with
  | nil => exact onlyTells_pure start
  | cons item items ih =>
      rw [List.foldlM_cons]
      refine onlyTells_bind (untouched start item (by simp)) fun next => ?_
      exact ih next fun state other present => untouched state other (by simp [present])

theorem onlyTells_forM {step : α → Act σ PUnit} {items : List α}
    (untouched : ∀ item ∈ items, OnlyTells disk (step item)) :
    OnlyTells disk (items.forM step) := by
  induction items with
  | nil => exact onlyTells_pure PUnit.unit
  | cons item items ih =>
      rw [List.forM]
      refine onlyTells_bind (untouched item (by simp)) fun _ => ?_
      exact ih fun other present => untouched other (by simp [present])

end Act

namespace Operation

variable {σ α β : Type}

/-- Whether all that an operation does to a disk is to write down what it tells. -/
def OnlyTells (operation : Operation α) : Prop :=
  Act.OnlyTells id (show Act Disk α from operation)

theorem onlyTells_pure (value : α) : OnlyTells (pure value : Operation α) :=
  Act.onlyTells_pure value

theorem onlyTells_throw (error : Error) : OnlyTells (throw error : Operation α) :=
  Act.onlyTells_throw error

theorem onlyTells_tell (event : Event) : OnlyTells (tell event : Operation Unit) :=
  fun _ => rfl

theorem onlyTells_tree : OnlyTells Operation.tree :=
  fun _ => rfl

theorem onlyTells_look (act : FileTree → Act σ α) (state : σ) : OnlyTells (look act state) :=
  fun _ => rfl

theorem onlyTells_bind {operation : Operation α} {next : α → Operation β}
    (untouched : OnlyTells operation) (further : ∀ value, OnlyTells (next value)) :
    OnlyTells (operation >>= next) :=
  Act.onlyTells_bind untouched further

theorem onlyTells_map {operation : Operation α} (change : α → β)
    (untouched : OnlyTells operation) : OnlyTells (change <$> operation) := by
  rw [map_eq_pure_bind]
  exact onlyTells_bind untouched fun _ => onlyTells_pure _

theorem onlyTells_evaluation (evaluation : Evaluation α) :
    OnlyTells (liftM evaluation : Operation α) :=
  onlyTells_map _ (onlyTells_look _ _)

theorem onlyTells_logged (computation : Logged α) :
    OnlyTells (liftM computation : Operation α) :=
  onlyTells_evaluation _

theorem onlyTells_mapM {step : α → Operation β} {items : List α}
    (untouched : ∀ item ∈ items, OnlyTells (step item)) : OnlyTells (items.mapM step) :=
  Act.onlyTells_mapM untouched

theorem onlyTells_foldlM {step : β → α → Operation β} {items : List α} (start : β)
    (untouched : ∀ state, ∀ item ∈ items, OnlyTells (step state item)) :
    OnlyTells (items.foldlM step start) :=
  Act.onlyTells_foldlM start untouched

theorem onlyTells_forM {step : α → Operation PUnit} {items : List α}
    (untouched : ∀ item ∈ items, OnlyTells (step item)) : OnlyTells (items.forM step) :=
  Act.onlyTells_forM untouched

end Operation

end TagOrganizer
