import TagOrganizer.FileTree.Operation
import TagOrganizer.Proofs.Act

/-!
# What operations tell

Events that an operation may tell, whatever disk it is performed on. There is one rule for each way
to build an operation.
-/

namespace TagOrganizer

namespace Operation

variable {σ α β : Type} {allowed : Event → Prop}

/-- Whether an operation tells only events that are allowed. -/
def Tells (allowed : Event → Prop) (operation : Operation α) : Prop :=
  ∀ disk, ∀ event ∈ (operation.perform disk).log, allowed event

theorem tells_pure (value : α) : Tells allowed (pure value : Operation α) := by
  rintro disk event ⟨⟩

theorem tells_throw (error : Error) : Tells allowed (throw error : Operation α) := by
  rintro disk event ⟨⟩

theorem tells_tell {event : Event} (admitted : allowed event) :
    Tells allowed (tell event : Operation Unit) := by
  intro disk other present
  rw [perform_tell] at present
  rwa [List.mem_singleton.1 present]

theorem tells_tree : Tells allowed Operation.tree := by
  rintro disk event ⟨⟩

theorem tells_setTree (tree : FileTree) : Tells allowed (setTree tree) := by
  rintro disk event ⟨⟩

theorem log_bind (operation : Operation α) (next : α → Operation β) (disk : Disk) :
    ((operation >>= next).perform disk).log =
      (operation.perform disk).log ++
        match (operation.perform disk).value with
        | (.ok value, between) => ((next value).perform between).log
        | (.error _, _) => [] := by
  refine (@Act.log_bind Disk α β operation next disk).trans ?_
  unfold perform
  rcases Act.perform operation disk with ⟨⟨result, between⟩, log⟩
  cases result with
  | ok value => rfl
  | error error => rfl

theorem log_map (change : α → β) (operation : Operation α) (disk : Disk) :
    ((change <$> operation).perform disk).log = (operation.perform disk).log := by
  rw [map_eq_pure_bind, log_bind]
  rcases operation.perform disk with ⟨⟨result, between⟩, log⟩
  cases result with
  | ok value => exact List.append_nil log
  | error error => exact List.append_nil log

theorem tells_bind {operation : Operation α} {next : α → Operation β}
    (first : Tells allowed operation) (further : ∀ value, Tells allowed (next value)) :
    Tells allowed (operation >>= next) := by
  intro disk event present
  rw [log_bind, List.mem_append] at present
  rcases present with early | late
  · exact first disk event early
  · split at late
    · exact further _ _ event late
    · cases late

theorem tells_logged {computation : Logged α}
    (admitted : ∀ event ∈ computation.log, allowed event) :
    Tells allowed (liftM computation : Operation α) := by
  intro disk event present
  have told : ((liftM computation : Operation α).perform disk).log = computation.log := by
    refine (log_map _ _ _).trans ?_
    show (computation.log ++ []) ++ [] = computation.log
    rw [List.append_nil, List.append_nil]
  rw [told] at present
  exact admitted event present

theorem tells_require (step : Except StorageFault α) : Tells allowed (require step) := by
  cases step with
  | ok value => exact tells_pure value
  | error fault => exact tells_throw _

theorem tells_attempt (change : FileTree → Except StorageFault FileTree) :
    Tells allowed (attempt change) := by
  refine tells_bind tells_tree fun tree => ?_
  split
  · exact tells_bind (tells_setTree _) fun _ => tells_pure _
  · exact tells_pure _

theorem tells_makeFolders (path : Path) : Tells allowed (makeFolders path) := by
  refine tells_bind tells_tree fun tree => ?_
  exact tells_bind (tells_setTree _) fun _ => tells_require _

end Operation

end TagOrganizer
