import Mathlib
import TagOrganizer.Proofs.Transfer.Spread

/-!
# Where a moved file ends up

A file that is moved is first placed in all output folders and then removed if it has been copied
anywhere, also from an output folder that it was to stay in. So it is in all output folders in the
end iff none of the targets was taken or has been taken by a folder on the way to another one, and
the file has not been removed from one of its own targets (`nodeAt?_targetIn_iff`).
-/

namespace TagOrganizer

namespace Transfer

open FileTree Operation

variable {options : MoveOptions} {tree before after : FileTree} {file : TaggedFile}
  {content : String} {folder : Path} {folders : List Path} {copied : Prop}

/-! ### Moving one file -/

/-- Whether a file has been put in some folders, and has then been removed if it is not kept. -/
def Moved (options : MoveOptions) (file : TaggedFile) (content : String) (folders : List Path)
    (before after : FileTree) : Prop :=
  ∃ between copied, Spread file content folders copied before between ∧
    ((copied ∧ options.keep = false ∧ after = between.erase (lexical before.here file.location)) ∨
      (¬(copied ∧ options.keep = false) ∧ after = between))

section Move

variable (gentle : options.force = false) (real : options.trialRun = false)
  (placing : options.renameOnly = false)

include gentle real placing

theorem ensuresUnless_moved_moveFile (noLinks : tree.NoLinks)
    (original : tree.nodeAt? file.location = some (.file content))
    (inside : ∀ folder ∈ folders, staysInside folder file = true)
    (wanted : (shouldMove options file).value = true) (tally : Tally) :
    (moveFile options folders tally file).EnsuresUnless isCopyFailure tree
      fun result after => ∀ last, result = .ok last →
        Moved options file content folders tree after := by
  unfold moveFile
  apply ensuresUnless_bind (ensures_logged ?_).unless
  rw [wanted]
  simp only [if_true]
  rw [placesOf, placing]
  apply (ensuresUnless_spread_placeInAll gentle real noLinks original inside).bind
  · rintro error between - last ⟨⟩
  · intro written between spread
    have spread := spread written rfl
    split
    · rename_i removable
      simp only [Bool.and_eq_true, Bool.not_eq_true', List.isEmpty_eq_false_iff] at removable
      apply (ensures_removeSource_of_real real (spread.grows.noLinks noLinks)).unless.bind
      · rintro error after - last ⟨⟩
      · intro _ after shape
        refine (ensures_pure ?_).unless
        rintro last ⟨⟩
        rw [spread.grows.here] at shape
        exact ⟨between, _, spread, .inl ⟨removable.1, removable.2, shape _ rfl⟩⟩
    · rename_i kept
      refine (ensures_pure ?_).unless
      rintro last ⟨⟩
      exact ⟨between, _, spread, .inr ⟨by simpa using kept, rfl⟩⟩

theorem ensuresUnless_moved_run (noLinks : tree.NoLinks)
    (original : tree.nodeAt? file.location = some (.file content))
    (inside : ∀ folder ∈ folders, staysInside folder file = true)
    (wanted : (shouldMove options file).value = true) :
    (Transfer.run options folders [file]).EnsuresUnless isCopyFailure tree
      fun result after => ∀ report, result = .ok report →
        Moved options file content folders tree after := by
  have checked : (checkOutputs options folders).Ensures tree fun _ after => after = tree :=
    ensures_forM (fun folder tree _ same => ensures_checkOutput gentle folder same) rfl
  unfold Transfer.run moveAll
  rw [placing]
  simp only [Bool.not_false, if_true, List.foldlM_cons, List.foldlM_nil, bind_pure, bind_assoc]
  apply checked.unless.bind
  · rintro error between - report ⟨⟩
  · rintro _ between rfl
    apply (ensuresUnless_moved_moveFile gentle real placing noLinks original inside wanted _).bind
    · rintro error after - report ⟨⟩
    · intro tally after moved
      refine (ensures_pure ?_).unless
      rintro report ⟨⟩
      exact moved tally rfl

end Move

/-! ### Where the file is in the end -/

/--
Whether a file can come to lie at its target in a folder: it lies there, or nothing does and no
folder has to be made there on the way to any of its targets.
-/
def Admits (tree : FileTree) (file : TaggedFile) (content : String) (folders : List Path)
    (folder : Path) : Prop :=
  tree.find? (placeOf tree.here file folder) = some (.file content) ∨
    tree.find? (placeOf tree.here file folder) = none ∧
      ∀ other ∈ folders,
        ¬OnTheWay tree.here (other.join file.destination) (placeOf tree.here file folder)

/--
Whether a file is not taken away from one of its targets: it is kept, or it lies at none of them, or
it is not copied as there is something at each of them.
-/
def Spared (options : MoveOptions) (tree : FileTree) (file : TaggedFile) (folders : List Path) :
    Prop :=
  options.keep = true ∨
    (∀ folder ∈ folders, placeOf tree.here file folder ≠ lexical tree.here file.location) ∨
    ∀ folder ∈ folders, tree.find? (placeOf tree.here file folder) ≠ none

/-- A file that has been spread lies at each target that admits it. -/
theorem Spread.nodeAt?_of_admits (noLinks : before.NoLinks)
    (spread : Spread file content folders copied before after) (present : folder ∈ folders)
    (admits : Admits before file content folders folder) :
    after.nodeAt? (targetIn folder file) = some (.file content) := by
  rcases exists?_eq_true_iff.1 (spread.reached folder present) with ⟨node, led⟩
  have found := find?_placeOf (spread.grows.noLinks noLinks) led
  rw [spread.grows.here] at found
  rw [led]
  rcases admits with there | ⟨missing, apart⟩
  · rw [spread.grows.kept _ _ there] at found
    exact found.symm
  · rcases spread.added _ _ missing found with ⟨-, other, among, along⟩ | ⟨kind, -⟩
    · exact absurd along (apart other among)
    · rw [kind]

section Settled

variable (sound : before.Sound) (original : before.nodeAt? file.location = some (.file content))
  (inside : ∀ folder ∈ folders, staysInside folder file = true)
  (moved : Moved options file content folders before after)

include sound original moved

theorem Moved.nodeAt?_targetIn
    (admits : ∀ folder ∈ folders, Admits before file content folders folder)
    (spared : Spared options before file folders) :
    ∀ folder ∈ folders, after.nodeAt? (targetIn folder file) = some (.file content) := by
  intro folder present
  rcases moved with ⟨between, copied, spread, ⟨done, removed, rfl⟩ | ⟨-, rfl⟩⟩
  · have noLinks := spread.grows.noLinks sound.noLinks
    have led := spread.nodeAt?_of_admits sound.noLinks present (admits folder present)
    have source := spread.grows.kept _ _ ((nodeAt?_eq_some_iff sound.noLinks).1 original).2
    rcases spared with kept | elsewhere | taken
    · rw [removed] at kept
      cases kept
    · apply (keepsFolders_erase source).nodeAt? noLinks led
      rw [find?_erase_of_ne]
      · exact find?_placeOf noLinks led
      · rw [spread.grows.here]
        exact elsewhere folder present
    · rcases spread.vacant done with ⟨other, among, missing⟩
      exact absurd missing (taken other among)
  · exact spread.nodeAt?_of_admits sound.noLinks present (admits folder present)

include inside

theorem Moved.admits_and_spared
    (holds : ∀ folder ∈ folders, after.nodeAt? (targetIn folder file) = some (.file content)) :
    (∀ folder ∈ folders, Admits before file content folders folder) ∧
      Spared options before file folders := by
  rcases moved with ⟨between, copied, spread, ended⟩
  have source := spread.grows.kept _ _ ((nodeAt?_eq_some_iff sound.noLinks).1 original).2
  have soundAfter : after.Sound := by
    rcases ended with ⟨-, -, rfl⟩ | ⟨-, rfl⟩
    · exact (sound.of_grows spread.grows).erase source
    · exact sound.of_grows spread.grows
  have here : after.here = before.here := by
    rcases ended with ⟨-, -, rfl⟩ | ⟨-, rfl⟩
    · exact spread.grows.here
    · exact spread.grows.here
  have last (folder : Path) (present : folder ∈ folders) :
      after.find? (placeOf before.here file folder) = some (.file content) := by
    rw [← here]
    exact find?_placeOf soundAfter.noLinks (holds folder present)
  have earlier (folder : Path) (present : folder ∈ folders) :
      between.find? (placeOf before.here file folder) = some (.file content) := by
    have found := last folder present
    rcases ended with ⟨-, -, rfl⟩ | ⟨-, rfl⟩
    · by_cases same : placeOf before.here file folder = lexical before.here file.location
      · rw [same]
        exact source
      · rwa [find?_erase_of_ne between same] at found
    · exact found
  constructor
  · intro folder present
    cases first : before.find? (placeOf before.here file folder) with
    | some node =>
        left
        rw [first, ← spread.grows.kept _ _ first]
        exact earlier folder present
    | none =>
        refine .inr ⟨first, ?_⟩
        intro other among along
        rw [← here] at along
        -- All targets lead somewhere in the end, through folders.
        have made := find?_of_onTheWay soundAfter (staysInside_iff.1 (inside other among))
          (holds other among) along
        rw [here, last folder present] at made
        cases made
  · by_contra removable
    simp only [Spared, not_or, Bool.not_eq_true, not_forall, not_not, exists_prop] at removable
    rcases removable with ⟨removed, ⟨folder, present, same⟩, other, among, missing⟩
    -- The file that is new at the other target is a copy, so that the file has been removed.
    rcases spread.added _ _ missing (earlier other among) with ⟨kind, -⟩ | ⟨-, done⟩
    · cases kind
    · rcases ended with ⟨-, -, rfl⟩ | ⟨kept, -⟩
      · have found := last folder present
        rw [same, find?_erase_self between (ne_nil_of_file source)] at found
        cases found
      · exact kept ⟨done, removed⟩

end Settled

/--
A file that is moved to some folders without a fault is in all of them in the end iff each of its
targets admits it and it is not taken away from one of them.
-/
theorem nodeAt?_targetIn_iff (sound : tree.Sound)
    (original : tree.nodeAt? file.location = some (.file content))
    (gentle : options.force = false) (real : options.trialRun = false)
    (placing : options.renameOnly = false) (wanted : (shouldMove options file).value = true)
    (inside : ∀ folder ∈ folders, staysInside folder file = true) {report : Report}
    (done : ((Transfer.run options folders [file]).performOn tree).value = (.ok report, after))
    (quiet : ∀ event ∈ ((Transfer.run options folders [file]).performOn tree).log,
      isCopyFailure event = false) :
    (∀ folder ∈ folders, after.nodeAt? (targetIn folder file) = some (.file content)) ↔
      (∀ folder ∈ folders, Admits tree file content folders folder) ∧
        Spared options tree file folders := by
  rw [performOn, Logged.log_bind, Logged.log_pure, List.append_nil] at quiet
  rcases ensuresUnless_moved_run gentle real placing sound.noLinks original inside wanted quiet with
    ⟨result, last, ended, moved⟩
  rw [performOn, Logged.value_bind, ended] at done
  cases done
  have moved := moved report rfl
  constructor
  · exact moved.admits_and_spared sound original inside
  · rintro ⟨admits, spared⟩
    exact moved.nodeAt?_targetIn sound original admits spared

section Desk

/-- One file in a folder. -/
def desk : FileTree :=
  ⟨[(["i"], .folder), (["i", "a"], .file "x")], [], []⟩

theorem sound_desk : desk.Sound where
  noLinks := noLinks_of_entries (by simp [desk])
  here := hasFolder_nil desk

/-- Files are moved if nothing is in the way, or copied. -/
def gently (keep : Bool) : MoveOptions where
  keep := keep
  trialRun := false
  force := false
  allMatchRoot := false
  moveAll := false
  posix := true
  renameOnly := false

/-- The file in the folder. -/
def memo : TaggedFile :=
  TaggedFile.undecided "a" "" "" [] "a" ⟨"i/a"⟩

theorem staysInside_memo : ∀ folder ∈ [⟨"o"⟩, ⟨"i"⟩], staysInside folder memo = true := by
  simp only [List.forall_mem_cons]
  exact ⟨by cbv, by cbv, by simp⟩

theorem admits_desk :
    ∀ folder ∈ [⟨"o"⟩, ⟨"i"⟩], Admits desk memo "x" [⟨"o"⟩, ⟨"i"⟩] folder := by
  have place : placeOf desk.here memo ⟨"o"⟩ = ["o", "a"] := by cbv
  have ways : ∀ folder ∈ [⟨"o"⟩, ⟨"i"⟩], ∃ name,
      (Path.join folder memo.destination).plainComponents = [.name name] := by
    simp only [List.forall_mem_cons]
    exact ⟨⟨"o", by cbv⟩, ⟨"i", by cbv⟩, by simp⟩
  simp only [List.forall_mem_cons]
  refine ⟨.inr ⟨by cbv, ?_⟩, .inl (by cbv), by simp⟩
  rintro other present ⟨front, least, leads⟩
  rcases ways other present with ⟨name, way⟩
  rw [way, List.prefix_cons_iff] at least
  rw [place] at leads
  rcases least with rfl | ⟨rest, rfl, inside⟩
  · cases leads
  · rw [List.prefix_nil.1 inside] at leads
    cases leads

/-- A file that is copied to another folder and to its own one is in both of them. -/
theorem nodeAt?_targetIn_desk :
    let done := (Transfer.run (gently true) [⟨"o"⟩, ⟨"i"⟩] [memo]).performOn desk
    desk.Sound ∧ desk.nodeAt? memo.location = some (.file "x") ∧
      (shouldMove (gently true) memo).value = true ∧
      (∀ folder ∈ [⟨"o"⟩, ⟨"i"⟩], staysInside folder memo = true) ∧
      (∃ report, done.value.1 = .ok report) ∧
      (∀ event ∈ done.log, isCopyFailure event = false) ∧
      done.value.2.nodeAt? (targetIn ⟨"o"⟩ memo) = some (.file "x") ∧
      done.value.2.nodeAt? (targetIn ⟨"i"⟩ memo) = some (.file "x") := by
  intro done
  have original : desk.nodeAt? memo.location = some (.file "x") := by cbv
  have performed : (Transfer.run (gently true) [⟨"o"⟩, ⟨"i"⟩] [memo]).performOn desk =
      ⟨(.ok ⟨[memo], [⟨"o/a"⟩], [], [.success "Wrote 1 file(s)"]⟩,
        ⟨[(["o", "a"], .file "x"), (["o"], .folder), (["i"], .folder), (["i", "a"], .file "x")],
          [], []⟩), [.moving ⟨"i/a"⟩ ⟨"o/a"⟩, .folderCreated ⟨"o/"⟩, .ontoItself ⟨"i/a"⟩]⟩ := by
    cbv
  have ended := congrArg Logged.value performed
  have quiet : ∀ event ∈ done.log, isCopyFailure event = false := by
    simp [done, performed, isCopyFailure]
  have settled :=
    nodeAt?_targetIn_iff sound_desk original rfl rfl rfl rfl staysInside_memo ended quiet
  have holds := settled.2 ⟨admits_desk, .inl rfl⟩
  refine ⟨sound_desk, original, rfl, staysInside_memo, ⟨_, congrArg Prod.fst ended⟩, quiet, ?_⟩
  rw [show done.value = _ from ended]
  exact ⟨holds _ (by simp), holds _ (by simp)⟩

/-- A file that is moved to another folder and to its own one is removed from its own one. -/
theorem not_nodeAt?_targetIn_desk :
    desk.NoLinks ∧ (shouldMove (gently false) memo).value = true ∧
      (∀ folder ∈ [⟨"o"⟩, ⟨"i"⟩], staysInside folder memo = true) ∧
      desk.nodeAt? memo.location = some (.file "x") ∧
      desk.exists? (targetIn ⟨"o"⟩ memo) = false ∧
      desk.isSame (targetIn ⟨"i"⟩ memo) memo.location = true ∧
      ∃ report after,
        ((Transfer.run (gently false) [⟨"o"⟩, ⟨"i"⟩] [memo]).performOn desk).value =
          (.ok report, after) ∧
        (∀ event ∈ ((Transfer.run (gently false) [⟨"o"⟩, ⟨"i"⟩] [memo]).performOn desk).log,
          isCopyFailure event = false) ∧
        after.nodeAt? (targetIn ⟨"i"⟩ memo) = none := by
  have done : (Transfer.run (gently false) [⟨"o"⟩, ⟨"i"⟩] [memo]).performOn desk =
      ⟨(.ok ⟨[memo], [⟨"o/a"⟩], [],
          [.success "Wrote 1 file(s)", .information "Removed 1 original(s)"]⟩,
        ⟨[(["o", "a"], .file "x"), (["o"], .folder), (["i"], .folder)], [], []⟩),
        [.moving ⟨"i/a"⟩ ⟨"o/a"⟩, .folderCreated ⟨"o/"⟩, .ontoItself ⟨"i/a"⟩,
          .sourceRemoved ⟨"i/a"⟩]⟩ := by
    cbv
  refine ⟨sound_desk.noLinks, rfl, staysInside_memo, by cbv, by cbv, by cbv, _, _,
    congrArg Logged.value done, ?_, by cbv⟩
  rw [done]
  simp [isCopyFailure]

end Desk

end Transfer

end TagOrganizer
