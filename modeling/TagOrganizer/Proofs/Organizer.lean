import Mathlib
import TagOrganizer.Organizer
import TagOrganizer.Proofs.Collection
import TagOrganizer.Proofs.FileTree.Walk
import TagOrganizer.Proofs.Placement.Best
import TagOrganizer.Proofs.Pruning
import TagOrganizer.Proofs.Renaming.Batch
import TagOrganizer.Proofs.Transfer

/-!
# Runs keep content

Whatever a run does without force, no content is lost: only files that the scan has loaded may get
another place, and only if they are not to be kept (`content_kept`). The places of files are decided
by the scan; placing and naming leave the files where they are, so that the transfer removes only
what has been loaded.
-/

namespace TagOrganizer

open FileTree

/-! ### Runs where no journal is kept -/

namespace Organizing

variable {α β : Type} {act : Organizing α} {tree : FileTree}
  {post : Except Error α → FileTree → Prop}

/-- Whether the result of an act on a tree and the tree after it are as they should be. -/
def Ensures (act : Organizing α) (tree : FileTree)
    (post : Except Error α → FileTree → Prop) : Prop :=
  ∀ ledger, ∃ result after later,
    act.ends ⟨Disk.bare tree, ledger⟩ = (result, ⟨Disk.bare after, later⟩) ∧ post result after

theorem ensures_pure {value : α} (holds : post (.ok value) tree) :
    Ensures (pure value) tree post :=
  fun ledger => ⟨.ok value, tree, ledger, rfl, holds⟩

/-- What an act ensures has to be enough for what follows it, or if it fails for the end. -/
theorem Ensures.bind {next : α → Organizing β} {last : Except Error β → FileTree → Prop}
    (ensured : Ensures act tree post)
    (failed : ∀ error after, post (.error error) after → last (.error error) after)
    (further : ∀ value after, post (.ok value) after → Ensures (next value) after last) :
    Ensures (act >>= next) tree last := by
  intro ledger
  rcases ensured ledger with ⟨result, between, middle, ended, holds⟩
  cases result with
  | ok value =>
      rcases further value between holds middle with ⟨result, after, later, endedNext, holds⟩
      refine ⟨result, after, later, ?_, holds⟩
      rw [Act.ends_bind, ended]
      exact endedNext
  | error error =>
      refine ⟨.error error, between, middle, ?_, failed error between holds⟩
      rw [Act.ends_bind, ended]

theorem ensures_onDisk {operation : Operation α} (ensured : operation.Ensures tree post) :
    Ensures (onDisk operation) tree post := by
  intro ledger
  rcases ensured with ⟨result, after, ended, holds⟩
  refine ⟨result, after, ledger, ?_, holds⟩
  show ((operation.perform (Disk.bare tree)).value.1,
    (⟨(operation.perform (Disk.bare tree)).value.2, ledger⟩ : Scene)) = _
  rw [ended]

/-- Naming leaves the tree alone. -/
theorem ensures_onLedger {naming : Naming α}
    (holds : ∀ ledger, post (naming.ends ledger).1 tree) : Ensures (onLedger naming) tree post := by
  intro ledger
  refine ⟨(naming.ends ledger).1, tree, (naming.ends ledger).2, ?_, holds ledger⟩
  show ((naming.ends ledger).1, (⟨(Disk.bare tree).noteAll (naming.perform ledger).log,
    (naming.ends ledger).2⟩ : Scene)) = _
  rw [Disk.noteAll_bare]

/-- A property of trees that each step keeps is kept by all steps, also if one of them fails. -/
theorem ensures_mapM {step : α → Organizing β} {items : List α} {keeps : FileTree → Prop}
    (kept : ∀ item tree, keeps tree → Ensures (step item) tree fun _ after => keeps after)
    (start : keeps tree) : Ensures (items.mapM step) tree fun _ after => keeps after := by
  induction items generalizing tree with
  | nil => exact ensures_pure start
  | cons item items ih =>
      rw [List.mapM_cons]
      apply (kept item tree start).bind
      · intro error between holds
        exact holds
      · intro value between holds
        apply (ih holds).bind
        · intro error after holds
          exact holds
        · intro values after holds
          exact ensures_pure holds

end Organizing

namespace Organizer

variable {organizer : Organizer} {settings : Settings} {tree : FileTree}

/-! ### The steps of a run -/

theorem ensures_addIgnored {collector : Collector} (fresh : collector.files = []) (path : Path) :
    (addIgnored collector path).Ensures tree fun result after =>
      after = tree ∧ ∀ next, result = .ok next → next.files = [] := by
  refine Operation.ensures_map (Operation.ensures_look ⟨rfl, ?_⟩)
  intro next done
  have kept : ((Collector.loadIgnoreFile tree path).ends collector).2.files = [] :=
    Collector.keeps_loadIgnoreFile path collector fresh
  revert done kept
  rcases (Collector.loadIgnoreFile tree path).ends collector with ⟨result, last⟩
  intro done kept
  cases result with
  | error error => cases done
  | ok _ =>
      cases done
      exact kept

/-- Collecting leaves the tree alone, and gives files that are listed below the folders. -/
theorem ensures_collect (folders ignoreFiles : List Path) (options : ScanOptions) :
    (organizer.collect folders ignoreFiles options).Ensures tree fun result after =>
      after = tree ∧ ∀ report, result = .ok report →
        ∀ file ∈ report.files, Collector.Listed tree options folders file.location := by
  have ignored (start : Collector) (fresh : start.files = []) :
      (ignoreFiles.foldlM addIgnored start).Ensures tree fun result after =>
        after = tree ∧ ∀ collector, result = .ok collector → collector.files = [] := by
    apply Operation.ensures_foldlM
    · rintro collector path between - fresh rfl
      exact ensures_addIgnored fresh path
    · rfl
    · exact fresh
  unfold collect
  apply (ignored _ rfl).bind
  · rintro error tree ⟨rfl, -⟩
    exact ⟨rfl, nofun⟩
  · rintro collector tree ⟨rfl, fresh⟩
    refine Operation.ensures_map (Operation.ensures_look ⟨rfl, ?_⟩)
    intro report done
    cases ended : (Collector.scan tree options folders).ends collector with
    | mk result last =>
        rw [ended] at done
        cases result with
        | error error => cases done
        | ok found =>
            cases done
            exact Collector.listed_of_ends_scan (fresh collector rfl) ended

theorem locations_of_place {files : List TaggedFile} {report : Report}
    (placed : (organizer.place files).result = .ok report) :
    report.files.map TaggedFile.location = files.map TaggedFile.location := by
  have pairs := Placement.forall₂_of_run placed
  clear placed
  generalize report.files = others at pairs ⊢
  induction pairs with
  | nil => rfl
  | cons first _ ih =>
      rcases first with ⟨placement, -, rfl⟩
      rw [List.map_cons, List.map_cons, ih]

theorem locations_of_ends_name {files : List TaggedFile} {options : NamingOptions}
    {ledger after : Ledger} {report : Report}
    (ended : (organizer.name files options).ends ledger = (.ok report, after)) :
    report.files.map TaggedFile.location = files.map TaggedFile.location := by
  unfold name at ended
  rcases Act.ends_bind_eq_ok_iff.1 ended with ⟨namer, between, -, ended⟩
  unfold Naming.run at ended
  rcases Act.ends_bind_eq_ok_iff.1 ended with ⟨named, last, ended, reported⟩
  cases reported
  have ended : (Batch.name ⟨namer, organizer.groups.resolver, options, files⟩).ends between =
      (.ok named, after) := ended
  exact Batch.locations_of_ends_name ended

/-- Decides where files go; files that are only renamed stay. -/
def placing (organizer : Organizer) (settings : Settings) (files : List TaggedFile) :
    Organizing Report :=
  if settings.renameOnly then pure { Report.empty with files := files.map stay }
  else Organizing.onDisk (organizer.place files)

/-- Decides the names of files, unless they are only moved. -/
def naming (organizer : Organizer) (settings : Settings) (files : List TaggedFile) :
    Organizing Report :=
  if settings.moveOnly then pure { Report.empty with files := files }
  else Organizing.onLedger (organizer.name files settings.namingOptions)

/-- A run is a sequence of five steps. -/
theorem organize_eq (organizer : Organizer) (settings : Settings) :
    organizer.organize settings = do
      let collected ← Organizing.onDisk
        (organizer.collect settings.inputFolders settings.ignoreFiles settings.scanOptions)
      let placed ← organizer.placing settings collected.files
      let named ← organizer.naming settings placed.files
      let moved ← Organizing.onDisk
        (Transfer.run settings.moveOptions settings.outputFolders named.files)
      let cleaned ← settings.cleanFolders.mapM fun folder =>
        Organizing.onDisk (Pruning.run folder settings.trial)
      return {
        files := named.files
        written := moved.written
        removed := cleaned.flatMap Report.removed
        messages := collected.messages ++ placed.messages ++ named.messages ++ moved.messages ++
          cleaned.flatMap Report.messages } := by
  unfold organize placing naming
  split
  · split
    · simp only [pure_bind]
    · simp only [pure_bind]
  · split
    · simp only [pure_bind]
    · rfl

/-- Whether the files of a report, if there is one, are where some files are. -/
def Stays (files : List TaggedFile) (result : Except Error Report) : Prop :=
  ∀ report, result = .ok report →
    report.files.map TaggedFile.location = files.map TaggedFile.location

theorem ensures_placing (files : List TaggedFile) :
    Organizing.Ensures (organizer.placing settings files) tree fun result after =>
      after = tree ∧ Stays files result := by
  unfold placing
  split
  · refine Organizing.ensures_pure ⟨rfl, ?_⟩
    intro report done
    cases done
    rw [List.map_map]
    rfl
  · refine Organizing.ensures_onDisk (Operation.ensures_evaluation ⟨rfl, ?_⟩)
    intro report done
    exact locations_of_place done

theorem ensures_naming (files : List TaggedFile) :
    Organizing.Ensures (organizer.naming settings files) tree fun result after =>
      after = tree ∧ Stays files result := by
  unfold naming
  split
  · refine Organizing.ensures_pure ⟨rfl, ?_⟩
    intro report done
    cases done
    rfl
  · apply Organizing.ensures_onLedger
    intro ledger
    refine ⟨rfl, ?_⟩
    intro report done
    cases ended : (organizer.name files settings.namingOptions).ends ledger with
    | mk result after =>
        rw [ended] at done
        cases done
        exact locations_of_ends_name ended

/-! ### The whole run -/

/-- Whether the scan of a run loads the file at a location. -/
def Loads (organizer : Organizer) (settings : Settings) (tree : FileTree)
    (location : Location) : Prop :=
  ∃ report disk,
    ((organizer.collect settings.inputFolders settings.ignoreFiles settings.scanOptions).perform
      (Disk.bare tree)).value = (.ok report, disk) ∧
    ∃ file ∈ report.files, tree.canonical? file.location = some location

/-- Whether a run may give the file at a location another place. -/
def MayMove (organizer : Organizer) (settings : Settings) (tree : FileTree)
    (location : Location) : Prop :=
  settings.keep = false ∧ ∀ content, tree.HasFile location content →
    organizer.Loads settings tree location

/-- A file that has been collected may be moved from where its path says. -/
theorem mayMove_of_collected (noLinks : tree.NoLinks) (named : tree.Named)
    (removable : settings.keep = false) {report : Report} {disk : Disk}
    (collected : ((organizer.collect settings.inputFolders settings.ignoreFiles
      settings.scanOptions).perform (Disk.bare tree)).value = (.ok report, disk))
    (listed : ∀ file ∈ report.files,
      Collector.Listed tree settings.scanOptions settings.inputFolders file.location)
    {path : Path} (present : path ∈ report.files.map TaggedFile.location)
    (usable : textFault? path = none) :
    organizer.MayMove settings tree (lexical tree.here path) := by
  refine ⟨removable, ?_⟩
  intro content there
  rcases List.mem_map.1 present with ⟨file, among, rfl⟩
  rcases listed file among with ⟨folder, _, place, found, below⟩
  refine ⟨report, disk, collected, file, among, ?_⟩
  exact canonical?_of_mem_filesBelow noLinks named found below usable there

/-- A run without force carries all files along. -/
theorem ensures_organize (sound : tree.Sound) (named : tree.Named)
    (gentle : settings.force = false) :
    Organizing.Ensures (organizer.organize settings) tree fun _ after =>
      Carries (organizer.MayMove settings tree) tree after := by
  have start := Carries.refl (organizer.MayMove settings tree) tree
  rw [organize_eq]
  apply (Organizing.ensures_onDisk (ensures_collect settings.inputFolders settings.ignoreFiles
    settings.scanOptions).ended).bind
  · rintro error tree ⟨-, rfl, -⟩
    exact start
  · rintro report tree ⟨collected, rfl, listed⟩
    apply (ensures_placing report.files).bind
    · rintro error tree ⟨rfl, -⟩
      exact start
    · rintro placed tree ⟨rfl, stayed⟩
      apply (ensures_naming placed.files).bind
      · rintro error tree ⟨rfl, -⟩
        exact start
      · rintro given tree ⟨rfl, stayedAgain⟩
        have located : given.files.map TaggedFile.location =
            report.files.map TaggedFile.location :=
          (stayedAgain given rfl).trans (stayed placed rfl)
        have allowed : ∀ file ∈ given.files, settings.moveOptions.keep = false →
            textFault? file.location = none →
            organizer.MayMove settings tree (lexical tree.here file.location) := by
          intro file present removable usable
          refine mayMove_of_collected sound.noLinks named removable collected (listed report rfl)
            ?_ usable
          rw [← located]
          exact List.mem_map_of_mem present
        apply (Organizing.ensures_onDisk (Transfer.ensures_run gentle settings.outputFolders
          allowed ⟨sound, rfl, start⟩)).bind
        · intro error after kept
          exact kept.carries
        · intro moved after kept
          apply (Organizing.ensures_mapM (fun folder tree carried => Organizing.ensures_onDisk
            (Pruning.ensures_run folder settings.trial carried)) kept.carries).bind
          · intro error last carried
            exact carried
          · intro cleaned last carried
            exact Organizing.ensures_pure carried

/--
No content is lost without force, where no journal is kept. Each file has a place of its own after
a run, with its content, whether the run succeeds or fails. Only files that the scan has loaded may
get another place, and only if they are not to be kept.
-/
theorem content_kept (organizer : Organizer) (settings : Settings) (ledger : Ledger)
    (noLinks : tree.NoLinks) (named : tree.Named) (here : tree.HasFolder tree.here)
    (gentle : settings.force = false) :
    ∃ result after later,
      (organizer.organize settings).ends ⟨Disk.bare tree, ledger⟩ =
        (result, ⟨Disk.bare after, later⟩) ∧
      ∃ place : Location → Location,
        (∀ location content, tree.HasFile location content →
          after.HasFile (place location) content) ∧
        (∀ left leftContent right rightContent, tree.HasFile left leftContent →
          tree.HasFile right rightContent → place left = place right → left = right) ∧
        (∀ location content, tree.HasFile location content →
          ¬organizer.Loads settings tree location → place location = location) ∧
        (settings.keep = true → ∀ location content, tree.HasFile location content →
          place location = location) := by
  rcases ensures_organize ⟨noLinks, here⟩ named gentle ledger with
    ⟨result, after, later, ended, place, kept, apart, moved⟩
  refine ⟨result, after, later, ended, place, kept, apart, ?_, ?_⟩
  · intro location content found unloaded
    by_contra changed
    exact unloaded ((moved location content found changed).2 content found)
  · intro keep location content found
    by_contra changed
    have removable := (moved location content found changed).1
    rw [keep] at removable
    cases removable

/-- Puts every file right into the output folder. -/
def filer : Organizer where
  groups := GroupTable.empty
  rulebook :=
    { Rulebook.empty with
      tagFormats := [⟨⟨"", .empty⟩, ⟨"", .empty⟩⟩]
      movementRules := [.level ⟨[⟨[.all]⟩]⟩ "" []] }

/-- Files are moved from one folder up into the folder around it. -/
def filing : Settings where
  inputFolders := [⟨"i"⟩]
  ignoreFiles := []
  recursive := false
  hidden := false
  outputFolders := [⟨"."⟩]
  groupFiles := []
  ruleFiles := []
  allMatchRoot := false
  cleanFolders := []
  keep := false
  moveOnly := true
  renameOnly := false
  moveAll := false
  renameManual := false
  failForcedRename := false
  trial := false
  posix := true
  force := false
  log := ⟨.warning, none, false⟩

/-- A file in a folder. -/
def unfiled : FileTree :=
  ⟨[(["i"], .folder), (["i", "a"], .file "x")], [], []⟩

theorem noLinks_unfiled : unfiled.NoLinks :=
  noLinks_of_entries (by simp [unfiled])

theorem named_unfiled : unfiled.Named := by
  have proper : ∀ name ∈ ["i", "a"], IsName name := by
    intro name present
    simp only [List.mem_cons, List.not_mem_nil, or_false] at present
    rcases present with rfl | rfl
    · exact ⟨by decide, by decide, by decide, by decide, by decide⟩
    · exact ⟨by decide, by decide, by decide, by decide, by decide⟩
  intro location node present name among
  simp only [unfiled, List.mem_cons, Prod.mk.injEq, List.not_mem_nil, or_false] at present
  rcases present with ⟨rfl, -⟩ | ⟨rfl, -⟩
  · exact proper name (by simp at among; simp [among])
  · exact proper name among

/-- The content of a file that is moved is in the tree after the run. -/
theorem content_kept_unfiled :
    let after : FileTree := ⟨[(["a"], .file "x"), (["i"], .folder)], [], []⟩
    unfiled.NoLinks ∧ unfiled.Named ∧ unfiled.HasFolder unfiled.here ∧ filing.force = false ∧
      unfiled.HasFile ["i", "a"] "x" ∧
      ((filer.organize filing).ends ⟨Disk.bare unfiled, Ledger.empty⟩).2.disk.tree = after ∧
      ∃ location, after.HasFile location "x" := by
  intro after
  have there : unfiled.HasFile ["i", "a"] "x" :=
    ⟨(hasFolder_nil unfiled).append rfl, rfl⟩
  have done : ((filer.organize filing).ends ⟨Disk.bare unfiled, Ledger.empty⟩).2.disk.tree =
      after := by
    cbv
  rcases content_kept filer filing Ledger.empty noLinks_unfiled named_unfiled
    (hasFolder_nil unfiled) rfl with ⟨result, last, later, ended, place, kept, -⟩
  have same : last = after := by
    rw [← done, ended]
    rfl
  have carried := kept _ _ there
  rw [same] at carried
  exact ⟨noLinks_unfiled, named_unfiled, hasFolder_nil unfiled, rfl, there, done, _, carried⟩

end Organizer

end TagOrganizer
