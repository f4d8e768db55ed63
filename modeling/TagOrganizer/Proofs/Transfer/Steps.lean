import Mathlib
import TagOrganizer.Proofs.FileTree.Changed
import TagOrganizer.Proofs.Transfer.Refusal

/-!
# Transfers stay in their folders

All that a transfer does to a tree without links is a sequence of steps, each of which is made at an
output folder, below one or on the way to one, or removes a file that is moved (`Step`). What no
step reaches is left alone (`find?_eq_of_steps`).
-/

namespace TagOrganizer

namespace Transfer

open FileTree Operation Relation

/-- Whether a file goes to a folder: an output folder, or the one it is in if it is only renamed. -/
def GoesTo (options : MoveOptions) (folders : List Path) (file : TaggedFile) (folder : Path) :
    Prop :=
  if options.renameOnly then folder = file.location.parent?.getD Path.empty else folder ∈ folders

/-- Whether a folder is one that some of the files go to. -/
def Goal (options : MoveOptions) (folders : List Path) (files : List TaggedFile) (folder : Path) :
    Prop :=
  ∃ file ∈ files, GoesTo options folders file folder

/-- Whether a location is strictly below the one that a path leads to. -/
def Below (here : Location) (folder : Path) (location : Location) : Prop :=
  ∃ along, along ≠ [] ∧ location = lexical here folder ++ along

/-- Whether a location is at or below the one that a path leads to, or on the way to it. -/
def Along (here : Location) (folder : Path) (location : Location) : Prop :=
  lexical here folder <+: location ∨
    ∃ front, front <+: folder.plainComponents ∧ location = locationOf here front

/-- The steps of which all changes of a transfer consist. -/
inductive Step (options : MoveOptions) (folders : List Path) (files : List TaggedFile)
    (here : Location) : FileTree → FileTree → Prop where
  | folderMade {tree : FileTree} {folder : Path} {location : Location}
      (goal : Goal options folders files folder) (there : Along here folder location)
      (missing : tree.find? location = none) :
      Step options folders files here tree (tree.put location .folder)
  | fileWritten {tree : FileTree} {folder : Path} {location : Location}
      (goal : Goal options folders files folder) (there : Below here folder location)
      (content : String) :
      Step options folders files here tree (tree.put location (.file content))
  | folderCleared {tree : FileTree} {folder : Path} {location : Location}
      (forced : options.force = true) (goal : Goal options folders files folder)
      (there : Below here folder location) :
      Step options folders files here tree (tree.eraseBelow location)
  | outputCleared {tree : FileTree} {folder : Path} {content : String}
      (forced : options.force = true) (outputs : options.renameOnly = false)
      (among : folder ∈ folders) (found : tree.find? (lexical here folder) = some (.file content)) :
      Step options folders files here tree (tree.erase (lexical here folder))
  | sourceRemoved {tree : FileTree} {file : TaggedFile} {content : String}
      (moved : options.keep = false) (present : file ∈ files)
      (found : tree.find? (lexical here file.location) = some (.file content)) :
      Step options folders files here tree (tree.erase (lexical here file.location))

variable {options : MoveOptions} {folders : List Path} {files : List TaggedFile}
  {start tree after : FileTree} {file : TaggedFile} {folder target : Path}

theorem below_targetIn (inside : ¬Leaves file) (here : Location) (folder : Path) :
    Below here folder (lexical here (targetIn folder file)) := by
  have named : ∀ component ∈ file.destination.plainComponents ++ [.name file.outputName],
      ∃ name, component = .name name := by
    intro component present
    rcases List.mem_append.1 present with inner | last
    · exact named_destination inside component inner
    · exact ⟨_, List.mem_singleton.1 last⟩
  rcases exists_locationOf_eq_append (lexical here folder) named with ⟨along, length, leads⟩
  rw [← locationOf_plainComponents, plainComponents_targetIn inside, List.append_assoc,
    locationOf_append, locationOf_plainComponents]
  refine ⟨along, ?_, leads⟩
  rintro rfl
  simp at length

theorem along_destination (inside : ¬Leaves file) (here : Location) {folder : Path}
    {front : List Path.Component}
    (least : front <+: (folder.join file.destination).plainComponents) :
    Along here folder (locationOf here front) := by
  rw [Path.plainComponents_join (relative_of_inside inside).1] at least
  rcases List.prefix_or_prefix_of_prefix least (List.prefix_append _ _) with outer | ⟨inner, rfl⟩
  · exact .inr ⟨front, outer, rfl⟩
  · rw [List.prefix_append_right_inj] at least
    left
    rw [locationOf_append, locationOf_plainComponents]
    rcases exists_locationOf_eq_append (lexical here folder) fun component present =>
      named_destination inside component (least.subset present) with ⟨along, -, leads⟩
    rw [leads]
    exact List.prefix_append _ _

/-! ### Steps of a transfer -/

theorem Step.here {here : Location} (step : Step options folders files here tree after) :
    after.here = tree.here := by
  cases step <;> rfl

theorem Step.noLinks {here : Location} (step : Step options folders files here tree after)
    (noLinks : tree.NoLinks) : after.NoLinks := by
  cases step with
  | folderMade _ _ _ => exact noLinks.put (by simp) _
  | fileWritten _ _ _ => exact noLinks.put (by simp) _
  | folderCleared _ _ _ => exact noLinks.eraseBelow _
  | outputCleared _ _ _ _ => exact noLinks.erase _
  | sourceRemoved _ _ _ => exact noLinks.erase _

/-- What holds after some steps of a transfer. -/
structure Reached (options : MoveOptions) (folders : List Path) (files : List TaggedFile)
    (start tree : FileTree) : Prop where
  steps : ReflTransGen (Step options folders files start.here) start tree
  here : tree.here = start.here
  noLinks : tree.NoLinks

theorem Reached.tail (reached : Reached options folders files start tree)
    (step : Step options folders files start.here tree after) :
    Reached options folders files start after where
  steps := reached.steps.tail step
  here := step.here.trans reached.here
  noLinks := step.noLinks reached.noLinks

theorem ensures_reached_checkOutput (reached : Reached options folders files start tree)
    (outputs : options.renameOnly = false) (among : folder ∈ folders) :
    (checkOutput options folder).Ensures tree fun _ after =>
      Reached options folders files start after := by
  unfold checkOutput
  apply ensures_bind (ensures_tree ?_)
  simp only
  split
  · split
    · rename_i forced
      apply ensures_bind (ensures_tell ?_)
      simp only
      split
      · refine ensures_change ?_ fun _ => reached
        intro after removed
        rcases eq_erase_of_removeFile reached.noLinks removed with ⟨-, content, found, rfl⟩
        rw [reached.here] at found ⊢
        exact reached.tail (.outputCleared forced outputs among found)
      · exact ensures_pure reached
    · exact ensures_bind (ensures_tell (ensures_throw reached))
  · exact ensures_pure reached

section Place

variable (reached : Reached options folders files start tree)
  (goal : Goal options folders files folder) (inside : ¬Leaves file)

include reached goal inside

theorem ensures_reached_makeDestination :
    (makeDestination options (folder.join file.destination)).Ensures tree fun _ after =>
      Reached options folders files start after := by
  unfold makeDestination
  apply ensures_bind (ensures_tree ?_)
  simp only
  split
  · apply ensures_bind (ensures_tell ?_)
    simp only
    split
    · -- Some folders may have been made also where the last one cannot be.
      refine ensures_makeFolders fun _ => ?_
      have made : ReflTransGen (Makes (Along tree.here folder)) tree
          (tree.makeFolders (folder.join file.destination)).1 :=
        makes_of_makeFolders reached.noLinks fun front least =>
          along_destination inside tree.here least
      have grows := grows_makeFolders tree (folder.join file.destination)
      rw [reached.here] at made
      refine ⟨reached.steps.trans (ReflTransGen.mono ?_ _ _ made), grows.here.trans reached.here,
        grows.noLinks reached.noLinks⟩
      rintro before after ⟨location, there, missing, rfl⟩
      exact .folderMade goal there missing
    · exact ensures_pure reached
  · exact ensures_pure reached

theorem ensures_reached_makeRoom :
    (makeRoom options (targetIn folder file)).Ensures tree fun _ after =>
      Reached options folders files start after := by
  unfold makeRoom
  apply ensures_bind (ensures_tree ?_)
  simp only
  split
  · exact ensures_pure reached
  · split
    · exact ensures_bind (ensures_tell (ensures_pure reached))
    · rename_i forced
      have forced : options.force = true := by simpa using forced
      split
      · exact ensures_bind (ensures_tell (ensures_pure reached))
      · apply ensures_bind (ensures_tell ?_)
        simp only
        split
        · exact ensures_pure reached
        · apply ensures_bind (ensures_attempt ?_ ?_)
          · intro after removed
            refine ensures_pure ?_
            rw [eq_eraseBelow_of_removeTree reached.noLinks removed, reached.here]
            exact reached.tail (.folderCleared forced goal (below_targetIn inside _ folder))
          · intro fault _
            exact ensures_bind (ensures_tell (ensures_pure reached))

theorem ensures_reached_copyTo (source : Path) :
    (copyTo options source (targetIn folder file)).Ensures tree fun _ after =>
      Reached options folders files start after := by
  unfold copyTo
  split
  · exact ensures_pure reached
  · apply ensures_bind (ensures_attempt ?_ ?_)
    · intro after copied
      refine ensures_pure ?_
      rcases eq_put_of_copyFile reached.noLinks copied with ⟨content, rfl⟩
      rw [reached.here]
      exact reached.tail (.fileWritten goal (below_targetIn inside _ folder) content)
    · intro fault _
      exact ensures_bind (ensures_tell (ensures_pure reached))

theorem ensures_reached_placeAt :
    (placeAt options file folder (targetIn folder file)).Ensures tree fun result after =>
      Reached options folders files start after ∧
        ∀ target, result = .ok (some target) → target = targetIn folder file := by
  unfold placeAt
  apply ensures_bind (ensures_tree ?_)
  simp only
  split
  · exact ensures_bind (ensures_tell (ensures_pure ⟨reached, nofun⟩))
  · apply ensures_bind (ensures_tell ?_)
    apply (ensures_reached_makeDestination reached goal inside).bind
    · exact fun _ _ reached => ⟨reached, nofun⟩
    · intro _ between reached
      apply (ensures_reached_makeRoom reached goal inside).bind
      · exact fun _ _ reached => ⟨reached, nofun⟩
      · intro roomy between reached
        cases roomy with
        | false => exact ensures_pure ⟨reached, nofun⟩
        | true =>
            apply (ensures_reached_copyTo reached goal inside file.location).bind
            · exact fun _ _ reached => ⟨reached, nofun⟩
            · intro written after reached
              cases written with
              | false => exact ensures_pure ⟨reached, nofun⟩
              | true =>
                  refine ensures_pure ⟨reached, ?_⟩
                  rintro target ⟨⟩
                  rfl

end Place

theorem ensures_reached_placeIn (reached : Reached options folders files start tree)
    (goal : Goal options folders files folder) (file : TaggedFile) :
    (placeIn options file folder).Ensures tree fun result after =>
      Reached options folders files start after ∧
        ∀ target, result = .ok (some target) → ¬Leaves file ∧ target = targetIn folder file := by
  refine ensures_placeIn_of (fun _ => ⟨reached, nofun⟩) fun inside => ?_
  rw [staysInside_iff] at inside
  refine (ensures_reached_placeAt reached goal inside).mono fun result after => ?_
  rintro ⟨reached, written⟩
  exact ⟨reached, fun target done => ⟨inside, written target done⟩⟩

theorem ensures_reached_mapM_placeIn {chosen : List Path}
    (goals : ∀ folder ∈ chosen, Goal options folders files folder) (file : TaggedFile)
    (reached : Reached options folders files start tree) :
    (chosen.mapM (placeIn options file)).Ensures tree fun result after =>
      Reached options folders files start after ∧
        ∀ targets, result = .ok targets → ∀ target, some target ∈ targets →
          ¬Leaves file ∧ ∃ folder ∈ chosen, target = targetIn folder file := by
  induction chosen generalizing tree with
  | nil =>
      refine ensures_pure ⟨reached, ?_⟩
      rintro targets ⟨⟩ target ⟨⟩
  | cons folder others ih =>
      apply (ensures_reached_placeIn reached (goals folder (by simp)) file).mapM_cons
      · rintro error between ⟨reached, -⟩
        exact ⟨reached, nofun⟩
      · rintro first between ⟨reached, written⟩
        apply (ih (fun other among => goals other (by simp [among])) reached).mono
        rintro (error | rest) after ⟨reached, writtenLater⟩
        · exact ⟨reached, nofun⟩
        · refine ⟨reached, ?_⟩
          rintro targets ⟨⟩ target present
          rcases List.mem_cons.1 present with rfl | later
          · rcases written target rfl with ⟨inside, here⟩
            exact ⟨inside, folder, by simp, here⟩
          · rcases writtenLater rest rfl target later with ⟨inside, other, among, there⟩
            exact ⟨inside, other, by simp [among], there⟩

/-- Whether a path is the target of one of some files in a folder that the file goes to. -/
def IsTarget (options : MoveOptions) (folders : List Path) (files : List TaggedFile)
    (target : Path) : Prop :=
  ∃ file ∈ files, ∃ folder, GoesTo options folders file folder ∧
    target.plainComponents = folder.plainComponents ++
      (if options.renameOnly then [] else file.destination.plainComponents) ++
        [.name file.outputName]

theorem mem_placesOf_iff : folder ∈ (placesOf options folders file).1 ↔
    GoesTo options folders file folder := by
  unfold placesOf GoesTo
  split
  · exact List.mem_singleton
  · rfl

theorem plainComponents_destination_placesOf (options : MoveOptions) (folders : List Path)
    (file : TaggedFile) : (placesOf options folders file).2.destination.plainComponents =
      if options.renameOnly then [] else file.destination.plainComponents := by
  unfold placesOf
  split
  · exact Path.plainComponents_empty
  · rfl

theorem ensures_reached_placeInAll (present : file ∈ files)
    (reached : Reached options folders files start tree) :
    (placeInAll options (placesOf options folders file).2
      (placesOf options folders file).1).Ensures tree fun result after =>
        Reached options folders files start after ∧
          ∀ written, result = .ok written → ∀ target ∈ written,
            IsTarget options folders files target := by
  have named : (placesOf options folders file).2.outputName = file.outputName := by
    unfold placesOf
    split <;> rfl
  unfold placeInAll
  apply (ensures_reached_mapM_placeIn
    (fun folder among => ⟨file, present, mem_placesOf_iff.1 among⟩)
    (placesOf options folders file).2 reached).bind
  · rintro error after ⟨reached, -⟩
    exact ⟨reached, nofun⟩
  · rintro targets after ⟨reached, written⟩
    refine ensures_pure ⟨reached, ?_⟩
    rintro filled ⟨⟩ target among
    rcases List.mem_filterMap.1 among with ⟨found, listed, rfl⟩
    rcases written targets rfl target listed with ⟨inside, folder, chosen, rfl⟩
    refine ⟨file, present, folder, mem_placesOf_iff.1 chosen, ?_⟩
    rw [plainComponents_targetIn inside, named, plainComponents_destination_placesOf]

theorem ensures_reached_removeSource (moved : options.keep = false) (present : file ∈ files)
    (reached : Reached options folders files start tree) :
    (removeSource options file).Ensures tree fun _ after =>
      Reached options folders files start after := by
  unfold removeSource
  apply ensures_bind (ensures_tell ?_)
  simp only
  split
  · refine ensures_change ?_ fun _ => reached
    intro after removed
    rcases eq_erase_of_removeFile reached.noLinks removed with ⟨-, content, found, rfl⟩
    rw [reached.here] at found ⊢
    exact reached.tail (.sourceRemoved moved present found)
  · exact ensures_pure reached

theorem ensures_reached_moveFile (present : file ∈ files)
    (reached : Reached options folders files start tree) {tally : Tally}
    (targets : ∀ target ∈ tally.written, IsTarget options folders files target) :
    (moveFile options folders tally file).Ensures tree fun result after =>
      Reached options folders files start after ∧
        ∀ next, result = .ok next → ∀ target ∈ next.written,
          IsTarget options folders files target := by
  unfold moveFile
  apply ensures_bind (ensures_logged ?_)
  simp only
  split
  · apply (ensures_reached_placeInAll present reached).bind
    · rintro error between ⟨reached, -⟩
      exact ⟨reached, nofun⟩
    · rintro written between ⟨reached, more⟩
      have all : ∀ target ∈ tally.written ++ written, IsTarget options folders files target := by
        intro target among
        rcases List.mem_append.1 among with early | late
        · exact targets target early
        · exact more written rfl target late
      split
      · rename_i removable
        simp only [Bool.and_eq_true, Bool.not_eq_true'] at removable
        apply (ensures_reached_removeSource removable.2 present reached).bind
        · exact fun _ _ reached => ⟨reached, nofun⟩
        · intro _ after reached
          refine ensures_pure ⟨reached, ?_⟩
          rintro next ⟨⟩
          exact all
      · refine ensures_pure ⟨reached, ?_⟩
        rintro next ⟨⟩
        exact all
  · refine ensures_pure ⟨reached, ?_⟩
    rintro next ⟨⟩
    exact targets

theorem ensures_reached_moveAll (reached : Reached options folders files start tree) :
    (moveAll options folders files).Ensures tree fun result after =>
      Reached options folders files start after ∧
        ∀ tally, result = .ok tally → ∀ target ∈ tally.written,
          IsTarget options folders files target := by
  have moved (between : FileTree) (reached : Reached options folders files start between) :
      (files.foldlM (moveFile options folders) ⟨[], 0, 0⟩).Ensures between fun result after =>
        Reached options folders files start after ∧
          ∀ tally, result = .ok tally → ∀ target ∈ tally.written,
            IsTarget options folders files target := by
    refine ensures_foldlM ?_ reached (by simp)
    intro tally file tree present targets reached
    exact ensures_reached_moveFile present reached targets
  unfold moveAll
  split
  · rename_i outputs
    have checked : (checkOutputs options folders).Ensures tree fun _ after =>
        Reached options folders files start after := by
      refine ensures_forM ?_ reached
      intro folder tree among reached
      exact ensures_reached_checkOutput reached (by simpa using outputs) among
    apply checked.bind
    · exact fun _ _ reached => ⟨reached, nofun⟩
    · exact fun _ between reached => moved between reached
  · exact moved tree reached

theorem ensures_steps_run (noLinks : tree.NoLinks) (options : MoveOptions) (folders : List Path)
    (files : List TaggedFile) :
    (Transfer.run options folders files).Ensures tree fun result after =>
      ReflTransGen (Step options folders files tree.here) tree after ∧
        ∀ report, result = .ok report → ∀ target ∈ report.written,
          IsTarget options folders files target := by
  have start : Reached options folders files tree tree := ⟨.refl, rfl, noLinks⟩
  unfold Transfer.run
  apply (ensures_reached_moveAll start).bind
  · rintro error after ⟨reached, -⟩
    exact ⟨reached.steps, nofun⟩
  · rintro tally after ⟨reached, targets⟩
    refine ensures_pure ⟨reached.steps, ?_⟩
    rintro report ⟨⟩
    exact targets tally rfl

/-- What a transfer does not reach is left alone. -/
theorem find?_eq_of_steps {here location : Location}
    (steps : ReflTransGen (Step options folders files here) tree after)
    (elsewhere : ∀ folder, Goal options folders files folder → ¬Along here folder location)
    (noOutput : options.renameOnly = false → ∀ folder ∈ folders, location ≠ lexical here folder)
    (noSource : options.keep = false → ∀ file ∈ files, location ≠ lexical here file.location) :
    after.find? location = tree.find? location := by
  have outside {folder : Path} {place : Location} (goal : Goal options folders files folder)
      (there : Below here folder place) : ¬place <+: location := by
    rcases there with ⟨along, -, rfl⟩
    exact fun inside => elsewhere folder goal (.inl ((List.prefix_append _ _).trans inside))
  induction steps with
  | refl => rfl
  | tail _ step ih =>
      rw [← ih]
      cases step with
      | folderMade goal there missing =>
          apply find?_put_of_ne
          rintro rfl
          exact elsewhere _ goal there
      | fileWritten goal there content =>
          apply find?_put_of_ne
          rintro rfl
          exact outside goal there (List.prefix_refl _)
      | folderCleared forced goal there =>
          exact find?_eraseBelow_of_outside _ (outside goal there)
      | outputCleared forced outputs among found =>
          exact find?_erase_of_ne _ (noOutput outputs _ among)
      | sourceRemoved moved present found =>
          exact find?_erase_of_ne _ (noSource moved _ present)

/--
A transfer on a tree without links consists of steps in its folders and of removals of files that
are moved; what it writes lies in a folder at the destination of a file, under its name. A file is
refused iff its destination or its name leads out of the folder, and nothing else is done for it
then.
-/
theorem steps_and_refusals_of_run (noLinks : tree.NoLinks) (options : MoveOptions)
    (folders : List Path) (files : List TaggedFile) :
    (Transfer.run options folders files).Ensures tree (fun result after =>
      ReflTransGen (Step options folders files tree.here) tree after ∧
        ∀ report, result = .ok report → ∀ target ∈ report.written,
          IsTarget options folders files target) ∧
      ∀ file folder between,
        ((∃ event ∈ ((placeIn options file folder).performOn between).log, isRefusal event = true) ↔
          Leaves file) ∧
        (Leaves file → (placeIn options file folder).performOn between =
          ⟨(.ok none, between),
            [.outsideRefused file.rawName folder file.destination file.outputName]⟩) :=
  ⟨ensures_steps_run noLinks options folders files, fun file folder between =>
    ⟨exists_isRefusal_iff options file folder between,
      fun leaves => placeIn_of_leaves leaves options folder between⟩⟩

section Inbox

/-- A file in a folder, beside a file where an output folder should be. -/
def inbox : FileTree :=
  ⟨[(["i"], .folder), (["i", "a"], .file "x"), (["o"], .file "y")], [], []⟩

theorem noLinks_inbox : inbox.NoLinks :=
  noLinks_of_entries (by simp [inbox])

/-- A file that is moved to the output folder. -/
def letter : TaggedFile :=
  { TaggedFile.undecided "a" "" "" [] "a" ⟨"i/a"⟩ with outputName := "b" }

/-- A file whose name leads out of the output folder. -/
def stray : TaggedFile :=
  { letter with outputName := ".." }

/-- One file is refused; the other one is moved, after room has been made for the folder. -/
theorem steps_and_refusals_inbox :
    let after : FileTree := ⟨[(["o", "b"], .file "x"), (["o"], .folder), (["i"], .folder)], [], []⟩
    inbox.NoLinks ∧
      ((Transfer.run forcibly [⟨"o"⟩] [stray, letter]).perform (Disk.bare inbox)).value.2.tree =
        after ∧
      ReflTransGen (Step forcibly [⟨"o"⟩] [stray, letter] []) inbox after ∧ Leaves stray := by
  intro after
  have done : ((Transfer.run forcibly [⟨"o"⟩] [stray, letter]).perform
      (Disk.bare inbox)).value.2.tree = after := by
    cbv
  rcases steps_and_refusals_of_run noLinks_inbox forcibly [⟨"o"⟩] [stray, letter] with
    ⟨⟨result, last, ended, steps, -⟩, refused⟩
  have same : last = after := by
    rw [← done, ended]
    rfl
  rw [same] at steps
  have told : ((placeIn forcibly stray ⟨"o"⟩).performOn inbox).log =
      [.outsideRefused "a" ⟨"o"⟩ Path.empty ".."] := by
    cbv
  have leaves : Leaves stray := by
    refine (refused stray ⟨"o"⟩ inbox).1.1 ⟨.outsideRefused "a" ⟨"o"⟩ Path.empty "..", ?_, ?_⟩
    · rw [told]
      exact List.mem_singleton_self _
    · rfl
  exact ⟨noLinks_inbox, done, steps, leaves⟩

end Inbox

end Transfer

end TagOrganizer
