import TagOrganizer.Proofs.FileTree.Content
import TagOrganizer.Proofs.FileTree.Ensures
import TagOrganizer.Transfer

/-!
# Transfers keep content

Without force a transfer carries all files along: placing a file only grows the tree, and the file
is removed only after a copy of it has been written. This holds whether the transfer succeeds or
fails.
-/

namespace TagOrganizer

namespace Transfer

open FileTree Operation

variable {options : MoveOptions} {tree : FileTree} {file : TaggedFile} {folder target : Path}

/-- Files are moved, whatever is in the way. -/
def forcibly : MoveOptions where
  keep := false
  trialRun := false
  force := true
  allMatchRoot := false
  moveAll := false
  posix := true
  renameOnly := false

/-- Without force nothing is removed for an output folder. -/
theorem ensures_checkOutput (gentle : options.force = false) (folder : Path)
    {keeps : FileTree → Prop} (start : keeps tree) :
    (checkOutput options folder).Ensures tree fun _ after => keeps after := by
  unfold checkOutput
  apply ensures_bind (ensures_tree ?_)
  simp only [gentle, Bool.false_eq_true, if_false]
  split
  · exact ensures_bind (ensures_tell (ensures_throw start))
  · exact ensures_pure start

theorem ensures_makeDestination (options : MoveOptions) (folder : Path) :
    (makeDestination options folder).Ensures tree fun _ after => Grows tree after := by
  unfold makeDestination
  apply ensures_bind (ensures_tree ?_)
  simp only
  split
  · apply ensures_bind (ensures_tell ?_)
    simp only
    split
    · exact ensures_makeFolders fun _ => grows_makeFolders tree folder
    · exact ensures_pure (Grows.refl tree)
  · exact ensures_pure (Grows.refl tree)

/-- Without force a file can be written to its target iff nothing is there. -/
theorem ensures_makeRoom (gentle : options.force = false) (target : Path) :
    (makeRoom options target).Ensures tree fun result after =>
      after = tree ∧ result = .ok (!tree.exists? target) := by
  unfold makeRoom
  apply ensures_bind (ensures_tree ?_)
  simp only [gentle]
  split
  · rename_i absent
    exact ensures_pure ⟨rfl, by rw [absent]⟩
  · rename_i there
    apply ensures_bind (ensures_tell ?_)
    exact ensures_pure ⟨rfl, by simpa using there⟩

theorem ensures_copyTo (sound : tree.Sound) (source : Path)
    (absent : tree.exists? target = false) :
    (copyTo options source target).Ensures tree fun result after =>
      Grows tree after ∧ (result = .ok true → options.trialRun = false →
        Copied (lexical tree.here source) tree after) := by
  unfold copyTo
  split
  · rename_i trial
    exact ensures_pure ⟨Grows.refl tree, fun _ real => by rw [trial] at real; cases real⟩
  · apply ensures_bind (ensures_attempt ?_ ?_)
    · intro after copied
      rcases hasFile_of_copyFile sound.noLinks sound.here absent copied with
        ⟨grows, content, copy, original, fresh, found⟩
      exact ensures_pure ⟨grows, fun _ _ => ⟨tree, content, copy, Grows.refl tree, original, fresh,
        grows, found⟩⟩
    · intro fault _
      apply ensures_bind (ensures_tell ?_)
      exact ensures_pure ⟨Grows.refl tree, fun done => by cases done⟩

/-- What is done for a file in a folder once its target there is admitted. -/
def placeAt (options : MoveOptions) (file : TaggedFile) (folder target : Path) :
    Operation (Option Path) := do
  if (← Operation.tree).isSame target file.location then
    tell (.ontoItself file.location)
    return none
  tell (.moving file.location target)
  makeDestination options (folder.join file.destination)
  if ← makeRoom options target then
    if ← copyTo options file.location target then return some target
    else return none
  else return none

/-- Something is written iff there is a target where it has been written. -/
theorem filterMap_id_ne_nil_iff {targets : List (Option Path)} :
    targets.filterMap id ≠ [] ↔ ∃ target, some target ∈ targets := by
  simp [List.filterMap_eq_nil_iff, Option.ne_none_iff_exists']

/-- A file is refused by a folder, or placed at its target there. -/
theorem ensures_placeIn_of {post : Except Error (Option Path) → FileTree → Prop}
    (refused : staysInside folder file = false → post (.ok none) tree)
    (placed : staysInside folder file = true →
      (placeAt options file folder (targetIn folder file)).Ensures tree post) :
    (placeIn options file folder).Ensures tree post := by
  unfold placeIn
  cases inside : staysInside folder file with
  | false => exact ensures_bind (ensures_tell (ensures_pure (refused inside)))
  | true =>
      simp only [Bool.not_true, Bool.false_eq_true, if_false]
      split
      · exact ensures_bind (ensures_logged (placed inside))
      · exact placed inside

section Place

variable (gentle : options.force = false) (sound : tree.Sound) (file : TaggedFile) (folder : Path)

include gentle sound

/-- What is done for a target that is admitted grows the tree, by a copy if it is written. -/
theorem ensures_placeAt (target : Path) :
    (placeAt options file folder target).Ensures tree fun result after =>
      Grows tree after ∧ ∀ written, result = .ok (some written) → options.trialRun = false →
        Copied (lexical tree.here file.location) tree after := by
  unfold placeAt
  apply ensures_bind (ensures_tree ?_)
  simp only
  split
  · apply ensures_bind (ensures_tell ?_)
    exact ensures_pure ⟨Grows.refl tree, fun _ done => by cases done⟩
  · apply ensures_bind (ensures_tell ?_)
    apply (ensures_makeDestination options (folder.join file.destination)).bind
    · intro error between grows
      exact ⟨grows, nofun⟩
    · intro _ between grows
      apply (ensures_makeRoom gentle target).bind
      · rintro error after ⟨rfl, -⟩
        exact ⟨grows, nofun⟩
      · rintro roomy after ⟨rfl, room⟩
        cases roomy with
        | false => exact ensures_pure ⟨grows, nofun⟩
        | true =>
            have absent : after.exists? target = false := by simpa using room
            apply (ensures_copyTo (sound.of_grows grows) file.location absent).bind
            · rintro error after ⟨more, -⟩
              exact ⟨grows.trans more, nofun⟩
            · rintro written after ⟨more, copied⟩
              rw [grows.here] at copied
              cases written with
              | false => exact ensures_pure ⟨grows.trans more, nofun⟩
              | true =>
                  refine ensures_pure ⟨grows.trans more, ?_⟩
                  intro _ _ real
                  exact (copied rfl real).of_grows_left grows

theorem ensures_placeIn :
    (placeIn options file folder).Ensures tree fun result after =>
      Grows tree after ∧ ∀ written, result = .ok (some written) → options.trialRun = false →
        Copied (lexical tree.here file.location) tree after := by
  refine ensures_placeIn_of (fun _ => ⟨Grows.refl tree, fun _ done => by cases done⟩) fun _ => ?_
  exact ensures_placeAt gentle sound file folder _

theorem ensures_mapM_placeIn (folders : List Path) :
    (folders.mapM (placeIn options file)).Ensures tree fun result after =>
      Grows tree after ∧ ∀ targets, result = .ok targets → (∃ target, some target ∈ targets) →
        options.trialRun = false → Copied (lexical tree.here file.location) tree after := by
  induction folders generalizing tree with
  | nil =>
      refine ensures_pure ⟨Grows.refl tree, ?_⟩
      rintro targets done ⟨target, present⟩
      cases done
      cases present
  | cons folder folders ih =>
      apply (ensures_placeIn gentle sound file folder).mapM_cons
      · rintro error between ⟨grows, -⟩
        exact ⟨grows, nofun⟩
      · rintro first between ⟨grows, copied⟩
        apply (ih (sound.of_grows grows)).mono
        rintro (error | others) after ⟨more, copiedLater⟩
        · exact ⟨grows.trans more, nofun⟩
        · rw [grows.here] at copiedLater
          refine ⟨grows.trans more, ?_⟩
          rintro targets done ⟨target, present⟩ real
          cases done
          rcases List.mem_cons.1 present with here | later
          · exact (copied target (by rw [here]) real).of_grows_right more
          · exact (copiedLater others rfl ⟨target, later⟩ real).of_grows_left grows

/-- Placing a file in several folders grows the tree, by a copy if it is written anywhere. -/
theorem ensures_placeInAll (folders : List Path) :
    (placeInAll options file folders).Ensures tree fun result after =>
      Grows tree after ∧ ∀ written, result = .ok written → written ≠ [] →
        options.trialRun = false → Copied (lexical tree.here file.location) tree after := by
  unfold placeInAll
  apply (ensures_mapM_placeIn gentle sound file folders).bind
  · rintro error after ⟨grows, -⟩
    exact ⟨grows, nofun⟩
  · rintro targets after ⟨grows, copied⟩
    refine ensures_pure ⟨grows, ?_⟩
    intro written done filled
    cases done
    exact copied targets rfl (filterMap_id_ne_nil_iff.1 filled)

end Place

/-! ### Moving files -/

theorem location_placesOf (options : MoveOptions) (folders : List Path) (file : TaggedFile) :
    (placesOf options folders file).2.location = file.location := by
  unfold placesOf
  split <;> rfl

/-- What a run of moves keeps: paths lead where they did, and all files are carried along. -/
structure Kept (movable : Location → Prop) (start tree : FileTree) : Prop where
  sound : tree.Sound
  here : tree.here = start.here
  carries : Carries movable start tree

variable {movable : Location → Prop} {start : FileTree}

theorem Kept.of_grows (kept : Kept movable start tree) {after : FileTree}
    (grows : Grows tree after) : Kept movable start after where
  sound := kept.sound.of_grows grows
  here := grows.here.trans kept.here
  carries := kept.carries.trans (Carries.of_grows grows)

/-- Removing a file that has been copied keeps what a run of moves keeps. -/
theorem ensures_removeSource {before : FileTree} (kept : Kept movable start before)
    (grows : Grows before tree)
    (allowed : textFault? file.location = none → movable (lexical start.here file.location))
    (copied : options.trialRun = false → Copied (lexical before.here file.location) before tree) :
    (removeSource options file).Ensures tree fun _ after => Kept movable start after := by
  unfold removeSource
  apply ensures_bind (ensures_tell ?_)
  simp only
  split
  · rename_i real
    refine ensures_change ?_ (fun _ => kept.of_grows grows)
    intro after removed
    have sound := kept.sound.of_grows grows
    have copied := copied (by simpa using real)
    rcases eq_erase_of_removeFile sound.noLinks removed with ⟨usable, content, there, rfl⟩
    have allowed := allowed usable
    rw [grows.here] at there ⊢
    rw [← kept.here] at allowed
    exact ⟨sound.erase there, grows.here.trans kept.here,
      kept.carries.trans (Carries.of_copied copied allowed)⟩
  · exact ensures_pure (kept.of_grows grows)

theorem ensures_removeSource_of_real (real : options.trialRun = false) (noLinks : tree.NoLinks) :
    (removeSource options file).Ensures tree fun result after => ∀ done, result = .ok done →
      after = tree.erase (lexical tree.here file.location) := by
  unfold removeSource
  rw [real]
  apply ensures_bind (ensures_tell ?_)
  simp only [Bool.not_false, if_true]
  apply ensures_change
  · rintro after removed - -
    rcases eq_erase_of_removeFile noLinks removed with ⟨-, content, -, shape⟩
    exact shape
  · rintro fault done ⟨⟩

/-- Moving a file keeps what a run of moves keeps; the file may be moved unless it is kept. -/
theorem ensures_moveFile (gentle : options.force = false) (folders : List Path)
    (allowed : options.keep = false → textFault? file.location = none →
      movable (lexical start.here file.location))
    (kept : Kept movable start tree) (tally : Tally) :
    (moveFile options folders tally file).Ensures tree fun _ after => Kept movable start after := by
  have located := location_placesOf options folders file
  unfold moveFile
  apply ensures_bind (ensures_logged ?_)
  simp only
  split
  · apply (ensures_placeInAll gentle kept.sound (placesOf options folders file).2
      (placesOf options folders file).1).bind
    · rintro error between ⟨grows, -⟩
      exact kept.of_grows grows
    · rintro written between ⟨grows, copied⟩
      rw [located] at copied
      split
      · rename_i removable
        simp only [Bool.and_eq_true, Bool.not_eq_true', List.isEmpty_eq_false_iff] at removable
        apply (ensures_removeSource kept grows (allowed removable.2)
          (copied written rfl removable.1)).bind
        · intro error after holds
          exact holds
        · intro _ after holds
          exact ensures_pure holds
      · exact ensures_pure (kept.of_grows grows)
  · exact ensures_pure kept

theorem ensures_moveAll (gentle : options.force = false) (folders : List Path)
    {files : List TaggedFile}
    (allowed : ∀ file ∈ files, options.keep = false → textFault? file.location = none →
      movable (lexical start.here file.location))
    (kept : Kept movable start tree) :
    (moveAll options folders files).Ensures tree fun _ after => Kept movable start after := by
  have moved (between : FileTree) (kept : Kept movable start between) :
      (files.foldlM (moveFile options folders) ⟨[], 0, 0⟩).Ensures between fun _ after =>
        Kept movable start after := by
    refine ensures_foldlM_tree ?_ kept _
    intro tally file tree present kept
    exact ensures_moveFile gentle folders (allowed file present) kept tally
  unfold moveAll
  split
  · have checked : (checkOutputs options folders).Ensures tree fun _ after =>
        Kept movable start after := by
      refine ensures_forM ?_ kept
      intro folder tree _ kept
      exact ensures_checkOutput gentle folder kept
    apply checked.bind
    · intro error between kept
      exact kept
    · intro _ between kept
      exact moved between kept
  · exact moved tree kept

theorem ensures_run (gentle : options.force = false) (folders : List Path)
    {files : List TaggedFile}
    (allowed : ∀ file ∈ files, options.keep = false → textFault? file.location = none →
      movable (lexical start.here file.location))
    (kept : Kept movable start tree) :
    (Transfer.run options folders files).Ensures tree fun _ after =>
      Kept movable start after := by
  unfold Transfer.run
  apply (ensures_moveAll gentle folders allowed kept).bind
  · intro error after holds
    exact holds
  · intro tally after holds
    exact ensures_pure holds

end Transfer

end TagOrganizer
