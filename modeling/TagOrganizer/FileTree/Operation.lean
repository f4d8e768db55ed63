import TagOrganizer.FileTree.Disk
import TagOrganizer.Logged

/-!
# Operations on trees

Acts on a disk that write every event to its journal when they tell it. What an operation has
changed before it fails stays changed. Without a journal an operation is an act on the tree alone.
-/

namespace TagOrganizer

/-- An act on a disk that writes its events to the journal of the disk. -/
def Operation (α : Type) : Type :=
  Act Disk α

namespace Operation

instance : Monad Operation := inferInstanceAs (Monad (Act Disk))

instance : LawfulMonad Operation := inferInstanceAs (LawfulMonad (Act Disk))

instance : MonadExceptOf Error Operation := inferInstanceAs (MonadExceptOf Error (Act Disk))

instance : MonadStateOf Disk Operation := inferInstanceAs (MonadStateOf Disk (Act Disk))

variable {σ α : Type}

/-- Performs an operation on a disk: its result, the disk after it and the events. -/
def perform (operation : Operation α) (disk : Disk) : Logged (Except Error α × Disk) :=
  Act.perform operation disk

/-- Performs an operation on a tree where no journal is kept. -/
def performOn (operation : Operation α) (tree : FileTree) :
    Logged (Except Error α × FileTree) := do
  let (result, disk) ← operation.perform (Disk.bare tree)
  return (result, disk.tree)

/-- Performs an act from a state, on the tree as it is, and writes down its events. -/
def look (act : FileTree → Act σ α) (state : σ) : Operation (α × σ) :=
  ExceptT.mk fun disk =>
    let performed := (act disk.tree).perform state
    let (result, state) := performed.value
    ⟨(result.map fun value => (value, state), disk.noteAll performed.log), performed.log⟩

/-- An evaluation whose events are written down. -/
def ofEvaluation (evaluation : Evaluation α) : Operation α :=
  Prod.fst <$> look (fun _ => Act.ofEvaluation evaluation) ()

instance : MonadLift Evaluation Operation where
  monadLift := ofEvaluation

instance : MonadLift Logged Operation where
  monadLift computation := ofEvaluation (liftM computation)

/-- An event that is told is written down. -/
theorem perform_tell (event : Event) (disk : Disk) :
    (tell event : Operation Unit).perform disk = ⟨(.ok (), disk.note event), [event]⟩ := rfl

/-- The tree as it is. -/
def tree : Operation FileTree :=
  Disk.tree <$> get

/-- Puts another tree in place of the one that is there. -/
def setTree (tree : FileTree) : Operation Unit :=
  modify fun disk => disk.setTree tree

/-- What a step on files and folders gives; its fault ends the run. -/
def require (step : Except StorageFault α) : Operation α :=
  match step with
  | .ok value => return value
  | .error fault => throw (.storage fault)

/-- Tries a change of the tree; one that fails leaves the tree alone. -/
def attempt (change : FileTree → Except StorageFault FileTree) :
    Operation (Except StorageFault Unit) := do
  match change (← tree) with
  | .ok changed =>
      setTree changed
      return .ok ()
  | .error fault => return .error fault

/-- Makes a change of the tree; its fault ends the run. -/
def change (change : FileTree → Except StorageFault FileTree) : Operation Unit := do
  require (← attempt change)

/-- Makes a folder and the folders on the way to it. -/
def makeFolders (path : Path) : Operation Unit := do
  let (changed, outcome) := (← tree).makeFolders path
  setTree changed
  require outcome

end Operation

/-- The text of a file, or why the run ends. -/
def FileTree.readFile (tree : FileTree) (path : Path) : Except Error String :=
  (tree.readText path).mapError Error.storage

end TagOrganizer
