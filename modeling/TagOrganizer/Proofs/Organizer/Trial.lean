import TagOrganizer.Proofs.FileTree.Untouched
import TagOrganizer.Proofs.Organizer

/-!
# Trial runs

A trial run changes nothing: each step of it only tells what it would do, whatever is forced, kept,
renamed or cleaned, and whether the run succeeds or fails. So the disk is left as it is, but for the
lines that the run writes to a journal that is kept on it (`disk_of_trial`).
-/

namespace TagOrganizer

/-! ### Transferring files -/

namespace Transfer

open Operation

variable {options : MoveOptions} (trial : options.trialRun = true)

theorem onlyTells_shouldMove (options : MoveOptions) (file : TaggedFile) :
    OnlyTells (liftM (shouldMove options file) : Operation Bool) :=
  onlyTells_logged _

include trial

theorem onlyTells_checkOutput (folder : Path) : OnlyTells (checkOutput options folder) := by
  unfold checkOutput
  refine onlyTells_bind onlyTells_tree fun tree => ?_
  rw [trial]
  split
  · split
    · exact onlyTells_bind (onlyTells_tell _) fun _ => onlyTells_pure _
    · exact onlyTells_bind (onlyTells_tell _) fun _ => onlyTells_throw _
  · exact onlyTells_pure _

theorem onlyTells_makeDestination (folder : Path) :
    OnlyTells (makeDestination options folder) := by
  unfold makeDestination
  refine onlyTells_bind onlyTells_tree fun tree => ?_
  rw [trial]
  split
  · exact onlyTells_bind (onlyTells_tell _) fun _ => onlyTells_pure _
  · exact onlyTells_pure _

theorem onlyTells_makeRoom (target : Path) : OnlyTells (makeRoom options target) := by
  unfold makeRoom
  refine onlyTells_bind onlyTells_tree fun tree => ?_
  rw [trial]
  split
  · exact onlyTells_pure _
  · split
    · exact onlyTells_bind (onlyTells_tell _) fun _ => onlyTells_pure _
    · split
      · exact onlyTells_bind (onlyTells_tell _) fun _ => onlyTells_pure _
      · exact onlyTells_bind (onlyTells_tell _) fun _ => onlyTells_pure _

theorem onlyTells_copyTo (source target : Path) : OnlyTells (copyTo options source target) := by
  unfold copyTo
  rw [if_pos trial]
  exact onlyTells_pure true

theorem onlyTells_placeAt (file : TaggedFile) (folder target : Path) :
    OnlyTells (placeAt options file folder target) := by
  unfold placeAt
  refine onlyTells_bind onlyTells_tree fun tree => ?_
  split
  · exact onlyTells_bind (onlyTells_tell _) fun _ => onlyTells_pure _
  · refine onlyTells_bind (onlyTells_tell _) fun _ => ?_
    refine onlyTells_bind (onlyTells_makeDestination trial _) fun _ => ?_
    refine onlyTells_bind (onlyTells_makeRoom trial _) fun roomy => ?_
    split
    · refine onlyTells_bind (onlyTells_copyTo trial _ _) fun written => ?_
      split
      · exact onlyTells_pure _
      · exact onlyTells_pure _
    · exact onlyTells_pure _

theorem onlyTells_placeIn (file : TaggedFile) (folder : Path) :
    OnlyTells (placeIn options file folder) := by
  have placed := onlyTells_placeAt trial file folder (targetIn folder file)
  unfold placeIn
  split
  · exact onlyTells_bind (onlyTells_tell _) fun _ => onlyTells_pure _
  · simp only
    split
    · exact onlyTells_bind (onlyTells_logged _) fun _ => placed
    · exact placed

theorem onlyTells_moveFile (folders : List Path) (tally : Tally) (file : TaggedFile) :
    OnlyTells (moveFile options folders tally file) := by
  unfold moveFile
  refine onlyTells_bind (onlyTells_shouldMove options file) fun wanted => ?_
  split
  · unfold placeInAll
    refine onlyTells_bind (onlyTells_bind (onlyTells_mapM fun folder _ =>
      onlyTells_placeIn trial _ folder) fun _ => onlyTells_pure _) fun written => ?_
    split
    · unfold removeSource
      rw [trial]
      exact onlyTells_bind (onlyTells_bind (onlyTells_tell _) fun _ => onlyTells_pure _)
        fun _ => onlyTells_pure _
    · exact onlyTells_pure _
  · exact onlyTells_pure _

/-- On a trial a transfer only tells what it would do. -/
theorem onlyTells_run (folders : List Path) (files : List TaggedFile) :
    OnlyTells (Transfer.run options folders files) := by
  have moved : OnlyTells (files.foldlM (moveFile options folders) ⟨[], 0, 0⟩) :=
    onlyTells_foldlM _ fun tally file _ => onlyTells_moveFile trial folders tally file
  have all : OnlyTells (moveAll options folders files) := by
    unfold moveAll
    split
    · exact onlyTells_bind (onlyTells_forM fun folder _ => onlyTells_checkOutput trial folder)
        fun _ => moved
    · exact moved
  exact onlyTells_bind all fun _ => onlyTells_pure _

end Transfer

/-! ### Pruning folders -/

namespace Pruning

open Operation

theorem onlyTells_fail (path : Path) (fault : StorageFault) (tally : Tally) :
    OnlyTells (fail path fault tally) :=
  onlyTells_bind (onlyTells_tell _) fun _ => onlyTells_pure _

theorem onlyTells_pruneFolder (tally : Tally) (path : Path) :
    OnlyTells (pruneFolder true tally path) := by
  unfold pruneFolder
  refine onlyTells_bind onlyTells_tree fun tree => ?_
  split
  · exact onlyTells_fail path _ tally
  · exact onlyTells_bind (onlyTells_tell _) fun _ => onlyTells_pure _
  · refine onlyTells_bind (onlyTells_tell _) fun _ => ?_
    refine onlyTells_bind (onlyTells_pure _) fun outcome => ?_
    simp only
    split
    · exact onlyTells_pure _
    · exact onlyTells_fail path _ tally

theorem onlyTells_pruneReported (tally : Tally) (item : Except FileTree.Unread Path) :
    OnlyTells (pruneReported true tally item) := by
  cases item with
  | ok path => exact onlyTells_pruneFolder tally path
  | error unread => exact onlyTells_bind (onlyTells_tell _) fun _ => onlyTells_pure _

/-- On a trial pruning only tells which folders it would remove. -/
theorem onlyTells_run (folder : Path) : OnlyTells (run folder true) := by
  have pruned : OnlyTells (prune folder true) := by
    unfold prune
    refine onlyTells_bind onlyTells_tree fun tree => ?_
    split
    · exact onlyTells_foldlM _ fun tally item _ => onlyTells_pruneReported tally item
    · exact onlyTells_foldlM _ fun tally item _ => onlyTells_pruneReported tally item
  exact onlyTells_bind pruned fun _ => onlyTells_pure _

end Pruning

/-! ### The whole run -/

namespace Organizing

variable {α : Type}

theorem onlyTells_onDisk {operation : Operation α} (untouched : operation.OnlyTells) :
    Act.OnlyTells Scene.disk (onDisk operation) := by
  intro scene
  show (operation.perform scene.disk).value.2 =
    scene.disk.noteAll ((operation.perform scene.disk).log ++ [])
  rw [List.append_nil]
  exact untouched scene.disk

theorem onlyTells_onLedger (naming : Naming α) : Act.OnlyTells Scene.disk (onLedger naming) :=
  fun _ => rfl

end Organizing

namespace Organizer

open Act Organizing

variable {organizer : Organizer} {settings : Settings}

theorem onlyTells_collect (folders ignoreFiles : List Path) (options : ScanOptions) :
    (organizer.collect folders ignoreFiles options).OnlyTells := by
  unfold collect
  refine Operation.onlyTells_bind (Operation.onlyTells_foldlM _ fun collector path _ => ?_) ?_
  · exact Operation.onlyTells_map _ (Operation.onlyTells_look _ _)
  · exact fun collector => Operation.onlyTells_map _ (Operation.onlyTells_look _ _)

theorem onlyTells_placing (files : List TaggedFile) :
    OnlyTells Scene.disk (organizer.placing settings files) := by
  unfold placing
  split
  · exact onlyTells_pure _
  · exact onlyTells_onDisk (Operation.onlyTells_evaluation _)

theorem onlyTells_naming (files : List TaggedFile) :
    OnlyTells Scene.disk (organizer.naming settings files) := by
  unfold naming
  split
  · exact onlyTells_pure _
  · exact onlyTells_onLedger _

theorem onlyTells_organize (trial : settings.trial = true) :
    OnlyTells Scene.disk (organizer.organize settings) := by
  rw [organize_eq]
  refine onlyTells_bind (onlyTells_onDisk (onlyTells_collect _ _ _)) fun collected => ?_
  refine onlyTells_bind (onlyTells_placing _) fun placed => ?_
  refine onlyTells_bind (onlyTells_naming _) fun named => ?_
  refine onlyTells_bind (onlyTells_onDisk (Transfer.onlyTells_run trial _ _)) fun moved => ?_
  refine onlyTells_bind (onlyTells_mapM fun folder _ => ?_) fun cleaned => onlyTells_pure _
  rw [trial]
  exact onlyTells_onDisk (Pruning.onlyTells_run folder)

/--
All that a trial run does to a disk is to write what it tells to the journal. Where no journal is
kept the disk is left exactly as it was, whatever the other settings are and however the run ends.
-/
theorem disk_of_trial (organizer : Organizer) (settings : Settings)
    (trial : settings.trial = true) (scene : Scene) :
    ((organizer.organize settings).perform scene).value.2.disk =
        scene.disk.noteAll ((organizer.organize settings).perform scene).log ∧
      (scene.disk.journal = none →
        ((organizer.organize settings).perform scene).value.2.disk = scene.disk) := by
  have told : ((organizer.organize settings).perform scene).value.2.disk =
      scene.disk.noteAll ((organizer.organize settings).perform scene).log :=
    onlyTells_organize trial scene
  refine ⟨told, fun unkept => ?_⟩
  rw [told]
  exact Disk.noteAll_of_unkept unkept _

/-- A run that would overwrite, move, remove and clean, if it were no trial. -/
def rehearsal : Settings :=
  { filing with
    outputFolders := [⟨"o"⟩]
    cleanFolders := [⟨"i"⟩]
    trial := true
    force := true }

/-- A file and a folder without entries in a folder, beside a file and a link. -/
def stage : Scene :=
  ⟨Disk.bare ⟨[(["i"], .folder), (["i", "a"], .file "x"), (["i", "h"], .folder),
    (["l"], .link ⟨"i"⟩), (["o"], .file "y")], [], []⟩, Ledger.empty⟩

/-- A trial run reports what it would write and remove, and leaves it to that. -/
theorem disk_of_trial_stage :
    let performed := (filer.organize rehearsal).perform stage
    rehearsal.trial = true ∧ stage.disk.journal = none ∧
      performed.value.1.toOption.map (fun report => (report.written, report.removed)) =
        some ([⟨"o/a"⟩], [⟨"i/h"⟩]) ∧
      performed.value.2.disk = stage.disk := by
  intro performed
  have reported : performed.value.1.toOption.map
      (fun report => (report.written, report.removed)) = some ([⟨"o/a"⟩], [⟨"i/h"⟩]) := by
    cbv
  exact ⟨rfl, rfl, reported, (disk_of_trial filer rehearsal rfl stage).2 rfl⟩

end Organizer

end TagOrganizer
