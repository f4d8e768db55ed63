import TagOrganizer.Proofs.FileTree.Persistence
import TagOrganizer.Proofs.FileTree.Quiet
import TagOrganizer.Proofs.Transfer.Refusal

/-!
# Placing a file in several folders

A file is placed in output folders in turn. A target that has been passed exists from then on, and
what has been added to the tree by then are folders on the way and copies of the file (`Spread`).
This needs that no copy fails, which ends no run but is told about.
-/

namespace TagOrganizer

namespace Transfer

open FileTree Operation Relation

variable {options : MoveOptions} {tree before between after : FileTree} {file : TaggedFile}
  {content : String} {folder : Path} {folders others : List Path} {copied copiedLater : Prop}

/-- Where a file goes in an output folder, as a location. -/
def placeOf (here : Location) (file : TaggedFile) (folder : Path) : Location :=
  lexical here (targetIn folder file)

/-- Whether a location is on the way along a path. -/
def OnTheWay (here : Location) (path : Path) (location : Location) : Prop :=
  ∃ front, front <+: path.plainComponents ∧ location = locationOf here front

/-- Whether an event tells that a file could not be copied. -/
def isCopyFailure : Event → Bool
  | .copyFailed .. => true
  | _ => false

theorem find?_placeOf (noLinks : tree.NoLinks) {node : Node}
    (found : tree.nodeAt? (targetIn folder file) = some node) :
    tree.find? (placeOf tree.here file folder) = some node :=
  ((nodeAt?_eq_some_iff noLinks).1 found).2

/-- On the way to a target that leads to something there are folders. -/
theorem find?_of_onTheWay (sound : tree.Sound) (inside : ¬Leaves file) {node : Node}
    (found : tree.nodeAt? (targetIn folder file) = some node) {location : Location}
    (along : OnTheWay tree.here (folder.join file.destination) location) :
    tree.find? location = some .folder := by
  rcases along with ⟨front, least, rfl⟩
  have whole : (targetIn folder file).plainComponents =
      (folder.join file.destination).plainComponents ++ [.name file.outputName] := by
    rw [plainComponents_targetIn inside, Path.plainComponents_join (relative_of_inside inside).1]
  apply find?_of_front sound ((nodeAt?_eq_some_iff sound.noLinks).1 found).1
  · rw [whole]
    exact least.trans (List.prefix_append _ _)
  · intro same
    have short := least.length_le
    rw [same, whole, List.length_append, List.length_singleton] at short
    omega

/-! ### Placing a file in folders -/

/-- Whether a tree has only been added to by folders on the way along a path. -/
structure Prepared (path : Path) (before after : FileTree) : Prop where
  grows : Grows before after
  added : ∀ location node, before.find? location = none → after.find? location = some node →
    node = .folder ∧ OnTheWay before.here path location

/-- Whether a tree has only been added to by putting a file in some folders, where it is now. -/
structure Spread (file : TaggedFile) (content : String) (folders : List Path) (copied : Prop)
    (before after : FileTree) : Prop where
  grows : Grows before after
  reached : ∀ folder ∈ folders, after.exists? (targetIn folder file) = true
  added : ∀ location node, before.find? location = none → after.find? location = some node →
    (node = .folder ∧ ∃ folder ∈ folders,
      OnTheWay before.here (folder.join file.destination) location) ∨
    (node = .file content ∧ copied)
  vacant : copied → ∃ folder ∈ folders, before.find? (placeOf before.here file folder) = none

theorem prepared_refl (path : Path) (tree : FileTree) : Prepared path tree tree where
  grows := Grows.refl tree
  added := by
    intro location node missing found
    rw [missing] at found
    cases found

theorem prepared_makeFolders (noLinks : tree.NoLinks) (path : Path) :
    Prepared path tree (tree.makeFolders path).1 where
  grows := grows_makeFolders tree path
  added := by
    intro location node missing found
    have made : ReflTransGen (Makes (OnTheWay tree.here path)) tree (tree.makeFolders path).1 :=
      makes_of_makeFolders noLinks fun front least => ⟨front, least, rfl⟩
    generalize (tree.makeFolders path).1 = after at made found
    induction made with
    | refl =>
        rw [missing] at found
        cases found
    | tail _ last ih =>
        rcases last with ⟨place, there, absent, rfl⟩
        rcases find?_put_eq_some found with ⟨rfl, rfl⟩ | earlier
        · exact ⟨rfl, there⟩
        · exact ih earlier

theorem ensures_prepared_makeDestination (noLinks : tree.NoLinks) (options : MoveOptions)
    (path : Path) : (makeDestination options path).Ensures tree fun _ => Prepared path tree := by
  unfold makeDestination
  apply ensures_bind (ensures_tree ?_)
  simp only
  split
  · apply ensures_bind (ensures_tell ?_)
    simp only
    split
    · exact ensures_makeFolders fun _ => prepared_makeFolders noLinks path
    · exact ensures_pure (prepared_refl path tree)
  · exact ensures_pure (prepared_refl path tree)

namespace Spread

theorem refl (file : TaggedFile) (content : String) (tree : FileTree) :
    Spread file content [] False tree tree where
  grows := Grows.refl tree
  reached := by simp
  added := by
    intro location node missing found
    rw [missing] at found
    cases found
  vacant := False.elim

/-- Where something is at the target of a file, the file is not copied there. -/
theorem of_exists (prepared : Prepared (folder.join file.destination) before after)
    (there : after.exists? (targetIn folder file) = true) :
    Spread file content [folder] False before after where
  grows := prepared.grows
  reached := by simpa using there
  added := by
    intro location node missing found
    left
    simpa using prepared.added location node missing found
  vacant := False.elim

/-- Where nothing is at the target of a file, the file may be copied there. -/
theorem of_copyFile (noLinks : before.NoLinks)
    (original : before.nodeAt? file.location = some (.file content))
    (prepared : Prepared (folder.join file.destination) before between)
    (absent : between.exists? (targetIn folder file) = false)
    (done : between.copyFile file.location (targetIn folder file) = .ok after) :
    Spread file content [folder] True before after := by
  have noLinksBetween := prepared.grows.noLinks noLinks
  rcases nodeAt?_of_copyFile noLinksBetween absent (prepared.grows.nodeAt? noLinks original) done
    with ⟨missing, shape, there⟩
  have place : lexical between.here (targetIn folder file) = placeOf before.here file folder := by
    rw [prepared.grows.here, placeOf]
  rw [place] at missing shape
  refine ⟨prepared.grows.trans ?_, ?_, ?_, ?_⟩
  · rw [shape]
    exact grows_put missing (by simp)
  · intro other present
    rw [List.mem_singleton.1 present]
    exact exists?_eq_true_iff.2 ⟨_, there⟩
  · intro location node absent found
    rw [shape] at found
    rcases find?_put_eq_some found with ⟨-, kind⟩ | earlier
    · exact .inr ⟨kind, trivial⟩
    · left
      simpa using prepared.added location node absent earlier
  · intro _
    exact ⟨folder, by simp, prepared.grows.absent missing⟩

/-- Placing a file in some folders and then in others places it in all of them. -/
theorem append (noLinks : before.NoLinks)
    (first : Spread file content folders copied before between)
    (second : Spread file content others copiedLater between after) :
    Spread file content (folders ++ others) (copied ∨ copiedLater) before after where
  grows := first.grows.trans second.grows
  reached := by
    intro folder present
    rcases List.mem_append.1 present with early | late
    · exact second.grows.exists? (first.grows.noLinks noLinks) (first.reached folder early)
    · exact second.reached folder late
  added := by
    intro location node missing found
    cases halfway : between.find? location with
    | none =>
        rcases second.added location node halfway found with
          ⟨kind, other, late, along⟩ | ⟨kind, done⟩
        · rw [first.grows.here] at along
          exact .inl ⟨kind, other, List.mem_append_right _ late, along⟩
        · exact .inr ⟨kind, .inr done⟩
    | some other =>
        have same : node = other := by
          have kept := second.grows.kept location other halfway
          rw [found] at kept
          exact Option.some.inj kept
        rw [same]
        rcases first.added location other missing halfway with
          ⟨kind, folder, early, along⟩ | ⟨kind, done⟩
        · exact .inl ⟨kind, folder, List.mem_append_left _ early, along⟩
        · exact .inr ⟨kind, .inl done⟩
  vacant := by
    rintro (early | late)
    · rcases first.vacant early with ⟨folder, present, missing⟩
      exact ⟨folder, List.mem_append_left _ present, missing⟩
    · rcases second.vacant late with ⟨folder, present, missing⟩
      rw [first.grows.here] at missing
      exact ⟨folder, List.mem_append_right _ present, first.grows.absent missing⟩

theorem congr (same : copied ↔ copiedLater)
    (spread : Spread file content folders copied before after) :
    Spread file content folders copiedLater before after := by
  rwa [← propext same]

end Spread

section Place

variable (gentle : options.force = false) (real : options.trialRun = false)

include real

/-- A file is written to a target, unless copying it fails. -/
theorem ensuresUnless_copyTo {source target : Path} {post : Except Error Bool → FileTree → Prop}
    (copied : ∀ after, tree.copyFile source target = .ok after → post (.ok true) after) :
    (copyTo options source target).EnsuresUnless isCopyFailure tree post := by
  unfold copyTo
  rw [real]
  simp only [Bool.false_eq_true, if_false]
  have tried : (attempt fun tree => tree.copyFile source target).Ensures tree
      fun result after => ∃ outcome, result = .ok outcome ∧
        (outcome = .ok () → tree.copyFile source target = .ok after) := by
    apply ensures_attempt
    · exact fun after done => ⟨_, rfl, fun _ => done⟩
    · exact fun fault _ => ⟨_, rfl, nofun⟩
  apply tried.unless.bind
  · rintro error after ⟨outcome, ⟨⟩, -⟩
  · rintro outcome after ⟨_, ⟨⟩, done⟩
    cases outcome with
    | ok value => exact (ensures_pure (copied after (done rfl))).unless
    | error fault => exact ensuresUnless_alarm rfl _

include gentle

/--
For a file that a folder admits, first the way to its target is prepared. Then either there is
something at the target, or the file is copied there.
-/
theorem ensuresUnless_placeIn {post : Except Error (Option Path) → FileTree → Prop}
    (noLinks : tree.NoLinks) (inside : staysInside folder file = true)
    (failed : ∀ error after, post (.error error) after)
    (taken : ∀ after, Prepared (folder.join file.destination) tree after →
      after.exists? (targetIn folder file) = true → post (.ok none) after)
    (copied : ∀ between after, Prepared (folder.join file.destination) tree between →
      between.exists? (targetIn folder file) = false →
      between.copyFile file.location (targetIn folder file) = .ok after →
      post (.ok (some (targetIn folder file))) after) :
    (placeIn options file folder).EnsuresUnless isCopyFailure tree post := by
  have placed : (placeAt options file folder (targetIn folder file)).EnsuresUnless isCopyFailure
      tree post := by
    unfold placeAt
    apply ensuresUnless_bind (ensures_tree ?_).unless
    simp only
    split
    · rename_i same
      have there := taken tree (prepared_refl _ tree) (exists?_of_isSame same)
      exact Ensures.unless (ensures_bind (ensures_tell (ensures_pure there)))
    · apply ensuresUnless_bind (ensures_tell ?_).unless
      apply (ensures_prepared_makeDestination noLinks options
        (folder.join file.destination)).unless.bind
      · exact fun error between _ => failed error between
      · intro _ between prepared
        apply (ensures_makeRoom gentle (targetIn folder file)).unless.bind
        · exact fun error after _ => failed error after
        · rintro roomy after ⟨rfl, room⟩
          cases roomy with
          | false => exact (ensures_pure (taken after prepared (by simpa using room))).unless
          | true =>
              have absent : after.exists? (targetIn folder file) = false := by simpa using room
              simp only [if_true]
              apply ensuresUnless_bind (ensuresUnless_copyTo real fun last done => ?_)
              exact (ensures_pure (copied after last prepared absent done)).unless
  unfold placeIn
  rw [inside]
  simp only [Bool.not_true, Bool.false_eq_true, if_false]
  split
  · exact ensuresUnless_bind (ensures_logged placed).unless
  · exact placed

theorem ensuresUnless_spread_placeIn (noLinks : tree.NoLinks)
    (original : tree.nodeAt? file.location = some (.file content))
    (inside : staysInside folder file = true) :
    (placeIn options file folder).EnsuresUnless isCopyFailure tree
      fun result after => ∀ written, result = .ok written →
        Spread file content [folder] (∃ target, written = some target) tree after := by
  refine ensuresUnless_placeIn gentle real noLinks inside (fun _ _ => nofun) ?_ ?_
  · rintro after prepared there written ⟨⟩
    exact (Spread.of_exists prepared there).congr (by simp)
  · rintro between after prepared absent done written ⟨⟩
    exact (Spread.of_copyFile noLinks original prepared absent done).congr (by simp)

theorem ensuresUnless_spread_mapM_placeIn (noLinks : tree.NoLinks)
    (original : tree.nodeAt? file.location = some (.file content))
    (inside : ∀ folder ∈ folders, staysInside folder file = true) :
    (folders.mapM (placeIn options file)).EnsuresUnless isCopyFailure tree
      fun result after => ∀ targets, result = .ok targets →
        Spread file content folders (∃ target, some target ∈ targets) tree after := by
  induction folders generalizing tree with
  | nil =>
      refine (ensures_pure ?_).unless
      rintro targets ⟨⟩
      exact (Spread.refl file content tree).congr (by simp)
  | cons folder folders ih =>
      have first := inside folder (by simp)
      apply (ensuresUnless_spread_placeIn gentle real noLinks original first).mapM_cons
      · rintro error between - targets ⟨⟩
      · intro first between spread
        have spread := spread first rfl
        apply (ih (spread.grows.noLinks noLinks) (spread.grows.nodeAt? noLinks original)
          fun other present => inside other (by simp [present])).mono
        rintro (error | rest) after more targets ⟨⟩
        apply (spread.append noLinks (more rest rfl)).congr
        simp [exists_or, eq_comm]

/-- Nothing but copies of a file and folders on the way to them is added to a tree. -/
theorem ensuresUnless_spread_placeInAll (noLinks : tree.NoLinks)
    (original : tree.nodeAt? file.location = some (.file content))
    (inside : ∀ folder ∈ folders, staysInside folder file = true) :
    (placeInAll options file folders).EnsuresUnless isCopyFailure tree
      fun result after => ∀ written, result = .ok written →
        Spread file content folders (written ≠ []) tree after := by
  unfold placeInAll
  apply (ensuresUnless_spread_mapM_placeIn gentle real noLinks original inside).bind
  · rintro error after - written ⟨⟩
  · intro targets after spread
    refine (ensures_pure ?_).unless
    rintro written ⟨⟩
    exact (spread targets rfl).congr filterMap_id_ne_nil_iff.symm

end Place

end Transfer

end TagOrganizer
