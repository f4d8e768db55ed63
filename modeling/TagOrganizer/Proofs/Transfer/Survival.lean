import Mathlib
import TagOrganizer.Proofs.FileTree.Barred
import TagOrganizer.Proofs.Transfer.Spread

/-!
# Moved files survive

Force may overwrite what is in the way of a file. The content of the file is still found afterwards,
where it was or where it has been written, provided that the file itself is not in the way of its
copies (`Clear`); without force it is always found (`survives_of_run`).
-/

namespace TagOrganizer

namespace Transfer

open FileTree Operation

variable {options : MoveOptions} {tree before between after : FileTree} {here : Location}
  {file : TaggedFile} {content : String} {folder target path : Path}
  {folders : List Path} {written writtenLater : List (Option Path)}

/-- Whether a path is to lead to a file until it is removed: its own path, or a target there. -/
def LeadsTo (options : MoveOptions) (here : Location) (file : TaggedFile) (folders : List Path)
    (path : Path) : Prop :=
  path = file.location ∨ options.force = true ∧ ∃ folder ∈ folders,
    path = targetIn folder file ∧ placeOf here file folder = lexical here file.location

/-- Whether a file is not in the way of its own copies, also if room is made for them by force. -/
structure Clear (options : MoveOptions) (tree : FileTree) (file : TaggedFile)
    (folders : List Path) : Prop where
  /-- No output folder is where the file is. -/
  outputs : ∀ folder ∈ folders, lexical tree.here folder ≠ lexical tree.here file.location
  /-- A target that is where the file is leads to it from the beginning. -/
  there : ∀ folder ∈ folders, placeOf tree.here file folder = lexical tree.here file.location →
    tree.exists? (targetIn folder file) = true
  /-- No target is passed on the way to the file. -/
  passed : ∀ path, LeadsTo options tree.here file folders path → ∀ folder ∈ folders,
    ¬Bars tree.here path (placeOf tree.here file folder)
  /-- No target is passed on the way to itself. -/
  reached : ∀ folder ∈ folders,
    ¬Bars tree.here (targetIn folder file) (placeOf tree.here file folder)

/-- Whether a file has not been touched so far. -/
structure Intact (options : MoveOptions) (here : Location) (file : TaggedFile) (content : String)
    (folders : List Path) (tree : FileTree) : Prop where
  noLinks : tree.NoLinks
  here_eq : tree.here = here
  leads : ∀ path, LeadsTo options here file folders path →
    tree.nodeAt? path = some (.file content)

/-- Whether there is a copy of a file at a target, in another place than the file. -/
def IsCopy (here : Location) (file : TaggedFile) (content : String) (tree : FileTree)
    (target : Path) : Prop :=
  lexical here target ≠ lexical here file.location ∧ tree.nodeAt? target = some (.file content)

theorem LeadsTo.lexical_eq (leads : LeadsTo options here file folders path) :
    lexical here path = lexical here file.location := by
  rcases leads with rfl | ⟨-, folder, -, rfl, same⟩
  · rfl
  · exact same

theorem endsInSlash_targetIn (inside : ¬Leaves file) (folder : Path) :
    endsInSlash (targetIn folder file) = false := by
  have single := inside
  rw [leaves_iff, not_not, isSingleName_iff] at single
  have filled : file.outputName.toList ≠ [] := by
    intro empty
    have none := components_outputName inside
    rw [String.toList_eq_nil_iff.1 empty] at none
    exact absurd (none.symm.trans Path.components_empty) (by simp)
  have last : file.outputName.toList.getLast? ≠ some '/' :=
    fun ended => single.2.1 (List.mem_of_getLast? ended)
  rw [endsInSlash, decide_eq_false_iff_not, targetIn]
  generalize folder.join file.destination = front
  unfold Path.join
  split
  · exact last
  · split
    · rwa [String.toList_append, List.getLast?_append_of_ne_nil _ filled]
    · rwa [String.toList_append, List.getLast?_append_of_ne_nil _ filled]

namespace Intact

theorem of_keeps (intact : Intact options here file content folders tree)
    (keeps : KeepsFolders tree after)
    (same : after.find? (lexical here file.location) = some (.file content)) :
    Intact options here file content folders after where
  noLinks := keeps.noLinks intact.noLinks
  here_eq := keeps.here.trans intact.here_eq
  leads := by
    intro path leads
    apply keeps.nodeAt? intact.noLinks (intact.leads path leads)
    rw [intact.here_eq, leads.lexical_eq]
    exact same

theorem source (intact : Intact options here file content folders tree) :
    tree.nodeAt? file.location = some (.file content) :=
  intact.leads _ (.inl rfl)

theorem found (intact : Intact options here file content folders tree) :
    tree.find? (lexical here file.location) = some (.file content) := by
  have found := ((nodeAt?_eq_some_iff intact.noLinks).1 intact.source).2
  rwa [intact.here_eq] at found

theorem of_grows (intact : Intact options here file content folders tree)
    (grows : Grows tree after) : Intact options here file content folders after :=
  intact.of_keeps grows.keepsFolders (grows.kept _ _ intact.found)

/-- Room is made for a copy without touching the file. -/
theorem eraseBelow (intact : Intact options here file content folders tree)
    (elsewhere : placeOf here file folder ≠ lexical here file.location)
    (clear : ∀ path, LeadsTo options here file folders path →
      ¬Bars here path (placeOf here file folder)) :
    Intact options here file content folders (tree.eraseBelow (placeOf here file folder)) where
  noLinks := intact.noLinks.eraseBelow _
  here_eq := intact.here_eq
  leads := by
    intro path leads
    refine nodeAt?_eraseBelow intact.noLinks ?_ ?_ (intact.leads path leads)
    · rw [intact.here_eq]
      exact clear path leads
    · rw [intact.here_eq, leads.lexical_eq]
      exact elsewhere

/-- A copy of the file is made elsewhere without touching the file. -/
theorem of_copyFile (intact : Intact options here file content folders tree)
    (elsewhere : placeOf here file folder ≠ lexical here file.location)
    (copied : tree.copyFile file.location (targetIn folder file) = .ok after) :
    Intact options here file content folders after ∧
      IsCopy here file content after (targetIn folder file) := by
  have apart : lexical tree.here (targetIn folder file) ≠ lexical tree.here file.location := by
    rw [intact.here_eq]
    exact elsewhere
  rcases nodeAt?_of_copyFile_of_ne intact.noLinks intact.source apart copied with
    ⟨shape, keeps, there⟩
  refine ⟨intact.of_keeps keeps ?_, elsewhere, there⟩
  rw [shape, ← intact.found, find?_put_of_ne]
  rw [intact.here_eq]
  exact elsewhere.symm

end Intact

/-! ### Steps of placing a file -/

/-- A file is copied, or nothing is changed as it cannot be. -/
theorem ensures_copyTo_of_real (real : options.trialRun = false) (source target : Path) :
    (copyTo options source target).Ensures tree fun result after =>
      (result = .ok true ∧ tree.copyFile source target = .ok after) ∨
        (result = .ok false ∧ after = tree ∧
          ∀ copied, tree.copyFile source target ≠ .ok copied) := by
  unfold copyTo
  rw [real]
  simp only [Bool.false_eq_true, if_false]
  apply ensures_bind (ensures_attempt ?_ ?_)
  · intro after copied
    exact ensures_pure (.inl ⟨rfl, copied⟩)
  · intro fault failed
    refine ensures_bind (ensures_tell (ensures_pure (.inr ⟨rfl, rfl, ?_⟩)))
    intro copied done
    rw [failed] at done
    cases done

/-- What holds after room has been made for a file at a target, or has not. -/
structure MadeRoom (options : MoveOptions) (here : Location) (file : TaggedFile) (content : String)
    (folders : List Path) (target : Path) (before after : FileTree) (roomy : Bool) : Prop where
  intact : Intact options here file content folders after
  unchanged : roomy = false → after = before
  vacant : roomy = true → options.force = false → after.exists? target = false
  /-- Something is removed only if the file can be copied then. -/
  useful : after = before ∨ ∃ copied, after.copyFile file.location target = .ok copied

/-- What holds after a file has been placed in folders: it is intact, and so is a copy of it. -/
structure Placed (options : MoveOptions) (here : Location) (file : TaggedFile) (content : String)
    (folders : List Path) (before after : FileTree) (written : List (Option Path)) : Prop where
  intact : Intact options here file content folders after
  grows : (∀ target, some target ∉ written) → Grows before after
  copied : (∃ target, some target ∈ written) →
    ∃ target, some target ∈ written ∧ IsCopy here file content after target

namespace Placed

theorem append (first : Placed options here file content folders before between written)
    (second : Placed options here file content folders between after writtenLater) :
    Placed options here file content folders before after (written ++ writtenLater) where
  intact := second.intact
  grows := fun none =>
    (first.grows fun target early => none target (List.mem_append_left _ early)).trans
      (second.grows fun target late => none target (List.mem_append_right _ late))
  copied := by
    rintro ⟨target, present⟩
    by_cases late : ∃ target, some target ∈ writtenLater
    · rcases second.copied late with ⟨other, present, copy⟩
      exact ⟨other, List.mem_append_right _ present, copy⟩
    · -- Nothing has been removed for the later folders, as nothing has been written there.
      have grows := second.grows fun target present => late ⟨target, present⟩
      have early := (List.mem_append.1 present).resolve_right fun present => late ⟨target, present⟩
      rcases first.copied ⟨target, early⟩ with ⟨other, present, apart, there⟩
      exact ⟨other, List.mem_append_left _ present, apart,
        grows.nodeAt? first.intact.noLinks there⟩

end Placed

section Place

variable (real : options.trialRun = false)
  (clear : options.force = true → Clear options before file folders)
  (among : folder ∈ folders) (inside : ¬Leaves file)
  (intact : Intact options before.here file content folders tree)

include real clear among inside intact

theorem ensures_madeRoom_makeRoom
    (elsewhere : options.force = true →
      placeOf before.here file folder ≠ lexical before.here file.location) :
    (makeRoom options (targetIn folder file)).Ensures tree fun result after =>
      ∀ roomy, result = .ok roomy → MadeRoom options before.here file content folders
        (targetIn folder file) tree after roomy := by
  unfold makeRoom
  apply ensures_bind (ensures_tree ?_)
  simp only
  split
  · rename_i absent
    refine ensures_pure ?_
    rintro roomy ⟨⟩
    exact ⟨intact, by rintro ⟨⟩, fun _ _ => by simpa using absent, .inl rfl⟩
  · rename_i there
    have there : tree.exists? (targetIn folder file) = true := by simpa using there
    split
    · refine ensures_bind (ensures_tell (ensures_pure ?_))
      rintro roomy ⟨⟩
      exact ⟨intact, fun _ => rfl, by rintro ⟨⟩, .inl rfl⟩
    · rename_i force
      have force : options.force = true := by simpa using force
      have gentle {after : FileTree} (gentle : options.force = false) :
          after.exists? (targetIn folder file) = false := by
        rw [force] at gentle
        cases gentle
      split
      · refine ensures_bind (ensures_tell (ensures_pure ?_))
        rintro roomy ⟨⟩
        exact ⟨intact, fun _ => rfl, fun _ => gentle, .inl rfl⟩
      · refine ensures_bind (ensures_tell ?_)
        rw [real]
        simp only [Bool.false_eq_true, if_false]
        refine ensures_bind (ensures_attempt ?_ ?_)
        · intro after removed
          refine ensures_pure ?_
          rintro roomy ⟨⟩
          have shape := eq_eraseBelow_of_removeTree intact.noLinks removed
          rw [intact.here_eq, ← placeOf] at shape
          have kept := intact.eraseBelow (elsewhere force) fun path leads =>
            (clear force).passed path leads folder among
          rw [← shape] at kept
          refine ⟨kept, by rintro ⟨⟩, fun _ => gentle, .inr ?_⟩
          rcases exists?_eq_true_iff.1 there with ⟨node, led⟩
          have located := ((nodeAt?_eq_some_iff intact.noLinks).1 led).1
          rw [intact.here_eq, ← placeOf] at located
          have barred := (clear force).reached folder among
          have below : placeOf before.here file folder ≠ [] := by
            intro root
            rw [root] at barred
            exact barred ⟨[], List.nil_prefix, List.nil_prefix⟩
          apply exists_copyFile kept.noLinks kept.source (endsInSlash_targetIn inside folder)
          · rw [shape]
            apply locate_eraseBelow intact.noLinks _ located
            rwa [intact.here_eq]
          · rw [shape, find?_eraseBelow_self tree below]
            rintro ⟨⟩
        · intro fault _
          refine ensures_bind (ensures_tell (ensures_pure ?_))
          rintro roomy ⟨⟩
          exact ⟨intact, fun _ => rfl, by rintro ⟨⟩, .inl rfl⟩

theorem ensures_placed_placeAt :
    (placeAt options file folder (targetIn folder file)).Ensures tree fun result after =>
      ∀ written, result = .ok written →
        Placed options before.here file content folders tree after [written] := by
  have idle {after : FileTree} (intact : Intact options before.here file content folders after)
      (grows : Grows tree after) :
      Placed options before.here file content folders tree after [none] :=
    ⟨intact, fun _ => grows, by simp⟩
  unfold placeAt
  apply ensures_bind (ensures_tree ?_)
  simp only
  split
  · refine ensures_bind (ensures_tell (ensures_pure ?_))
    rintro written ⟨⟩
    exact idle intact (Grows.refl tree)
  · rename_i different
    have elsewhere (force : options.force = true) :
        placeOf before.here file folder ≠ lexical before.here file.location := by
      intro same
      have led := intact.leads _ (.inr ⟨force, folder, among, rfl, same⟩)
      rw [placeOf, ← intact.here_eq] at same
      exact different (isSame_of_nodeAt? intact.noLinks led intact.source same)
    apply ensures_bind (ensures_tell ?_)
    apply (ensures_makeDestination options (folder.join file.destination)).bind
    · rintro error after - written ⟨⟩
    · intro _ between grows
      have intact := intact.of_grows grows
      apply (ensures_madeRoom_makeRoom real clear among inside intact elsewhere).bind
      · rintro error after - written ⟨⟩
      · intro roomy middle room
        have room := room roomy rfl
        cases roomy with
        | false =>
            refine ensures_pure ?_
            rintro written ⟨⟩
            rw [room.unchanged rfl]
            exact idle intact grows
        | true =>
            simp only [if_true]
            apply (ensures_copyTo_of_real real file.location (targetIn folder file)).bind
            · rintro error after (⟨⟨⟩, -⟩ | ⟨⟨⟩, -⟩)
            · rintro copied after (⟨⟨⟩, done⟩ | ⟨⟨⟩, rfl, failed⟩)
              · refine ensures_pure ?_
                rintro written ⟨⟩
                have apart : placeOf before.here file folder ≠
                    lexical before.here file.location := by
                  cases gentle : options.force with
                  | true => exact elsewhere gentle
                  | false =>
                      intro same
                      have missing := (nodeAt?_of_copyFile room.intact.noLinks
                        (room.vacant rfl gentle) room.intact.source done).1
                      rw [room.intact.here_eq, ← placeOf, same, room.intact.found] at missing
                      cases missing
                rcases room.intact.of_copyFile apart done with ⟨intact, copy⟩
                exact ⟨intact, fun none => absurd (List.mem_singleton_self _) (none _),
                  fun _ => ⟨_, List.mem_singleton_self _, copy⟩⟩
              · refine ensures_pure ?_
                rintro written ⟨⟩
                rcases room.useful with rfl | ⟨last, copied⟩
                · exact idle intact grows
                · exact absurd copied (failed last)

end Place

section Run

variable (real : options.trialRun = false)
  (clear : options.force = true → Clear options before file folders)

include real clear

theorem ensures_placed_placeIn (among : folder ∈ folders)
    (intact : Intact options before.here file content folders tree) :
    (placeIn options file folder).Ensures tree fun result after =>
      ∀ written, result = .ok written →
        Placed options before.here file content folders tree after [written] := by
  refine ensures_placeIn_of (fun _ => ?_) fun inside => ?_
  · rintro written ⟨⟩
    exact ⟨intact, fun _ => Grows.refl tree, by simp⟩
  · exact ensures_placed_placeAt real clear among (staysInside_iff.1 inside) intact

theorem ensures_placed_mapM_placeIn {chosen : List Path} (among : chosen ⊆ folders)
    (intact : Intact options before.here file content folders tree) :
    (chosen.mapM (placeIn options file)).Ensures tree fun result after =>
      ∀ written, result = .ok written →
        Placed options before.here file content folders tree after written := by
  induction chosen generalizing tree with
  | nil =>
      refine ensures_pure ?_
      rintro written ⟨⟩
      exact ⟨intact, fun _ => Grows.refl tree, by simp⟩
  | cons folder chosen ih =>
      apply (ensures_placed_placeIn real clear (among (by simp)) intact).mapM_cons
      · rintro error between - written ⟨⟩
      · intro first between placed
        have placed := placed first rfl
        apply (ih (fun other present => among (by simp [present])) placed.intact).mono
        rintro (error | rest) after more written ⟨⟩
        exact placed.append (more rest rfl)

theorem ensures_intact_placeInAll
    (intact : Intact options before.here file content folders tree) :
    (placeInAll options file folders).Ensures tree fun result after =>
      ∀ written, result = .ok written → Intact options before.here file content folders after ∧
        (written ≠ [] → ∃ target ∈ written, IsCopy before.here file content after target) := by
  unfold placeInAll
  apply (ensures_placed_mapM_placeIn real clear (List.Subset.refl folders) intact).bind
  · rintro error after - written ⟨⟩
  · intro targets after placed
    refine ensures_pure ?_
    rintro written ⟨⟩
    have placed := placed targets rfl
    refine ⟨placed.intact, fun filled => ?_⟩
    rcases placed.copied (filterMap_id_ne_nil_iff.1 filled) with ⟨target, listed, copy⟩
    exact ⟨target, List.mem_filterMap.2 ⟨some target, listed, rfl⟩, copy⟩

theorem ensures_intact_checkOutputs
    (intact : Intact options before.here file content folders tree) :
    (checkOutputs options folders).Ensures tree fun _ after =>
      Intact options before.here file content folders after := by
  refine ensures_forM (fun folder tree among intact => ?_) intact
  unfold checkOutput
  apply ensures_bind (ensures_tree ?_)
  simp only
  split
  · split
    · rename_i force
      apply ensures_bind (ensures_tell ?_)
      rw [real]
      simp only [Bool.not_false, if_true]
      refine ensures_change ?_ fun _ => intact
      intro after removed
      rcases eq_erase_of_removeFile intact.noLinks removed with ⟨-, other, there, rfl⟩
      refine intact.of_keeps (keepsFolders_erase there) ?_
      rw [find?_erase_of_ne, intact.found]
      rw [intact.here_eq]
      exact ((clear force).outputs folder among).symm
    · exact ensures_bind (ensures_tell (ensures_throw intact))
  · exact ensures_pure intact

end Run

/-! ### Moving one file -/

/-- Whether the content of a file is where the file was, or at one of some paths. -/
def Survives (file : TaggedFile) (content : String) (written : List Path) (after : FileTree) :
    Prop :=
  after.nodeAt? file.location = some (.file content) ∨
    ∃ target ∈ written, after.nodeAt? target = some (.file content)

theorem intact_of_clear (noLinks : tree.NoLinks)
    (original : tree.nodeAt? file.location = some (.file content))
    (clear : options.force = true → Clear options tree file folders) :
    Intact options tree.here file content folders tree where
  noLinks := noLinks
  here_eq := rfl
  leads := by
    rintro path (rfl | ⟨force, folder, among, rfl, same⟩)
    · exact original
    · rcases exists?_eq_true_iff.1 ((clear force).there folder among same) with ⟨node, led⟩
      rw [nodeAt?_eq_some_iff noLinks] at led original ⊢
      rw [placeOf] at same
      exact ⟨led.1, by rw [same]; exact original.2⟩

/-- A file that has been copied elsewhere may be removed. -/
theorem ensures_removeSource_of_isCopy (real : options.trialRun = false)
    (noLinks : tree.NoLinks) {written : List Path}
    (copied : ∃ target ∈ written, IsCopy tree.here file content tree target) :
    (removeSource options file).Ensures tree fun _ after =>
      ∃ target ∈ written, after.nodeAt? target = some (.file content) := by
  rcases copied with ⟨target, present, apart, there⟩
  unfold removeSource
  rw [real]
  apply ensures_bind (ensures_tell ?_)
  simp only [Bool.not_false, if_true]
  refine ensures_change ?_ fun _ => ⟨target, present, there⟩
  intro after removed
  rcases eq_erase_of_removeFile noLinks removed with ⟨-, other, found, rfl⟩
  refine ⟨target, present, (keepsFolders_erase found).nodeAt? noLinks there ?_⟩
  rw [find?_erase_of_ne tree apart]
  exact ((nodeAt?_eq_some_iff noLinks).1 there).2

theorem ensures_survives_moveFile (real : options.trialRun = false)
    (clear : options.force = true →
      Clear options before (placesOf options folders file).2 (placesOf options folders file).1)
    (intact : Intact options before.here (placesOf options folders file).2 content
      (placesOf options folders file).1 tree) :
    (moveFile options folders ⟨[], 0, 0⟩ file).Ensures tree fun result after =>
      ∀ tally, result = .ok tally → Survives file content tally.written after := by
  have located := location_placesOf options folders file
  unfold moveFile
  apply ensures_bind (ensures_logged ?_)
  simp only
  split
  · apply (ensures_intact_placeInAll real clear intact).bind
    · rintro error between - tally ⟨⟩
    · intro written between placed
      rcases placed written rfl with ⟨intact, copied⟩
      have source := intact.source
      rw [located] at source
      split
      · rename_i removable
        simp only [Bool.and_eq_true, Bool.not_eq_true', List.isEmpty_eq_false_iff] at removable
        have copied : ∃ target ∈ written, IsCopy between.here file content between target := by
          rw [intact.here_eq]
          simpa only [IsCopy, located] using copied removable.1
        apply (ensures_removeSource_of_isCopy real intact.noLinks copied).bind
        · rintro error after - tally ⟨⟩
        · intro _ after there
          refine ensures_pure ?_
          rintro tally ⟨⟩
          exact .inr there
      · refine ensures_pure ?_
        rintro tally ⟨⟩
        exact .inl source
  · refine ensures_pure ?_
    rintro tally ⟨⟩
    have source := intact.source
    rw [located] at source
    exact .inl source

theorem ensures_survives_run (real : options.trialRun = false)
    (clear : options.force = true →
      Clear options tree (placesOf options folders file).2 (placesOf options folders file).1)
    (noLinks : tree.NoLinks) (original : tree.nodeAt? file.location = some (.file content)) :
    (Transfer.run options folders [file]).Ensures tree fun result after =>
      ∀ report, result = .ok report → Survives file content report.written after := by
  have intact : Intact options tree.here (placesOf options folders file).2 content
      (placesOf options folders file).1 tree := by
    refine intact_of_clear noLinks ?_ clear
    rwa [location_placesOf]
  unfold Transfer.run moveAll
  have moved (between : FileTree) (intact : Intact options tree.here
      (placesOf options folders file).2 content (placesOf options folders file).1 between) :
      ((moveFile options folders ⟨[], 0, 0⟩ file) >>= fun tally =>
        (pure { files := [file], written := tally.written, removed := [],
                messages := messagesOf options tally } : Operation Report)).Ensures between
        fun result after =>
          ∀ report, result = .ok report → Survives file content report.written after := by
    apply (ensures_survives_moveFile real clear intact).bind
    · rintro error after - report ⟨⟩
    · intro tally after survives
      refine ensures_pure ?_
      rintro report ⟨⟩
      exact survives tally rfl
  simp only [List.foldlM_cons, List.foldlM_nil, bind_pure]
  cases inPlace : options.renameOnly with
  | true =>
      simp only [Bool.not_true, Bool.false_eq_true, if_false]
      exact moved tree intact
  | false =>
      simp only [Bool.not_false, if_true, bind_assoc]
      have places : placesOf options folders file = (folders, file) := by
        rw [placesOf, inPlace]
        rfl
      rw [places] at clear intact moved
      apply (ensures_intact_checkOutputs real clear intact).bind
      · rintro error between - report ⟨⟩
      · exact fun _ between intact => moved between intact

section Drawer

/-- A file, and a folder in its way. -/
def drawer : FileTree :=
  ⟨[(["i"], .folder), (["i", "a"], .file "x"), (["o"], .folder), (["o", "a"], .folder),
    (["o", "a", "b"], .file "y")], [], []⟩

/-- The file. -/
def slip : TaggedFile :=
  TaggedFile.undecided "a" "" "" [] "a" ⟨"i/a"⟩

theorem noLinks_drawer : drawer.NoLinks :=
  noLinks_of_entries (by simp [drawer])

theorem clear_slip : Clear forcibly drawer slip [⟨"o"⟩, ⟨"i"⟩] := by
  have outer : placeOf [] slip ⟨"o"⟩ = ["o", "a"] := by cbv
  have inner : placeOf [] slip ⟨"i"⟩ = ["i", "a"] := by cbv
  have original : lexical [] slip.location = ["i", "a"] := by cbv
  have apart {path : Path} (only : (steps path).dropLast = ["o"] ∨ (steps path).dropLast = ["i"]) :
      ∀ folder ∈ [⟨"o"⟩, ⟨"i"⟩], ¬Bars [] path (placeOf [] slip folder) := by
    simp only [List.forall_mem_cons, outer, inner, bars_iff, ite_self]
    rcases only with only | only
    · rw [only]
      decide
    · rw [only]
      decide
  refine ⟨?_, ?_, ?_, ?_⟩
  · show ∀ folder ∈ [⟨"o"⟩, ⟨"i"⟩], lexical [] folder ≠ lexical [] slip.location
    have outputs : lexical [] ⟨"o"⟩ = ["o"] ∧ lexical [] ⟨"i"⟩ = ["i"] := ⟨by cbv, by cbv⟩
    simp [outputs, original]
  · show ∀ folder ∈ [⟨"o"⟩, ⟨"i"⟩], placeOf [] slip folder = lexical [] slip.location → _
    simp only [List.forall_mem_cons, outer, original]
    exact ⟨by simp, fun _ => by cbv, by simp⟩
  · rintro path (rfl | ⟨-, folder, among, rfl, same⟩)
    · exact apart (.inr (by cbv))
    · simp only [List.mem_cons, List.not_mem_nil, or_false] at among
      rcases among with rfl | rfl
      · exact apart (.inl (by cbv))
      · exact apart (.inr (by cbv))
  · show ∀ folder ∈ [⟨"o"⟩, ⟨"i"⟩], ¬Bars [] (targetIn folder slip) (placeOf [] slip folder)
    simp only [List.forall_mem_cons]
    exact ⟨apart (.inl (by cbv)) _ (by simp), apart (.inr (by cbv)) _ (by simp), by simp⟩

/-- A file in a folder of the same name. -/
def nest : FileTree :=
  ⟨[(["a"], .folder), (["a", "a"], .file "x")], [], []⟩

/-- The file in the folder, which is to be moved up into its place. -/
def nested : TaggedFile :=
  TaggedFile.undecided "a" "" "" [] "a" ⟨"a/a"⟩

end Drawer

end Transfer

end TagOrganizer
