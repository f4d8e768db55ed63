import TagOrganizer.FileTree.Change
import TagOrganizer.Proofs.FileTree.Reach

/-!
# Growing trees

Making folders, and copying a file to where nothing is, leaves everything in place that is there. So
does any number of such changes, also when they fail half way.
-/

namespace TagOrganizer

namespace FileTree

/-- Whether nothing that was in a tree has been changed or removed, and no link has been added. -/
structure Grows (before after : FileTree) : Prop where
  kept : ∀ location node, before.find? location = some node → after.find? location = some node
  here : after.here = before.here
  noLinks : before.NoLinks → after.NoLinks

variable {tree before between after : FileTree} {location : Location} {path source target : Path}

namespace Grows

theorem refl (tree : FileTree) : Grows tree tree :=
  ⟨fun _ _ found => found, rfl, id⟩

theorem trans (first : Grows before between) (second : Grows between after) :
    Grows before after where
  kept := fun location node found => second.kept location node (first.kept location node found)
  here := second.here.trans first.here
  noLinks := fun noLinks => second.noLinks (first.noLinks noLinks)

theorem absent (grows : Grows before after) (missing : after.find? location = none) :
    before.find? location = none := by
  rw [Option.eq_none_iff_forall_ne_some]
  intro node found
  rw [grows.kept location node found] at missing
  cases missing

theorem hasFolder (grows : Grows before after) (reached : before.HasFolder location) :
    after.HasFolder location :=
  fun front least => grows.kept front .folder (reached front least)

theorem hasFile (grows : Grows before after) {content : String}
    (found : before.HasFile location content) : after.HasFile location content :=
  ⟨grows.hasFolder found.1, grows.kept location _ found.2⟩

end Grows

/-! ### Putting and removing nodes -/

theorem find?_put_of_some {node other : Node} (missing : tree.find? location = none)
    {place : Location} (found : tree.find? place = some other) :
    (tree.put location node).find? place = some other := by
  rw [find?_put_of_ne]
  · exact found
  · rintro rfl
    rw [missing] at found
    cases found

theorem find?_put_of_none (missing : tree.find? location = none) (node : Node) :
    (tree.put location node).find? location = some node := by
  apply find?_put_self
  rintro rfl
  cases missing

/-- What is found after a node has been put somewhere is the node or was there before. -/
theorem find?_put_eq_some {place : Location} {node other : Node}
    (found : (tree.put location node).find? place = some other) :
    (place = location ∧ other = node) ∨ tree.find? place = some other := by
  by_cases same : place = location
  · subst same
    by_cases root : place = []
    · rw [root] at found ⊢
      exact .inr found
    · rw [find?_put_self tree node root] at found
      exact .inl ⟨rfl, (Option.some.inj found).symm⟩
  · rw [find?_put_of_ne tree node same] at found
    exact .inr found

theorem NoLinks.put (noLinks : tree.NoLinks) {node : Node}
    (unlinked : ∀ target, node ≠ .link target) (location : Location) :
    (tree.put location node).NoLinks := by
  intro place target found
  rcases find?_put_eq_some found with ⟨-, same⟩ | before
  · exact unlinked target same.symm
  · exact noLinks place target before

theorem NoLinks.erase (noLinks : tree.NoLinks) (location : Location) :
    (tree.erase location).NoLinks := by
  intro other target found
  by_cases same : other = location
  · subst same
    by_cases inside : other = []
    · rw [inside] at found
      cases found
    · rw [find?_erase_self tree inside] at found
      cases found
  · rw [find?_erase_of_ne tree same] at found
    exact noLinks other target found

theorem grows_put (missing : tree.find? location = none) {node : Node}
    (unlinked : ∀ target, node ≠ .link target) : Grows tree (tree.put location node) where
  kept := fun _ _ found => find?_put_of_some missing found
  here := rfl
  noLinks := fun noLinks => noLinks.put unlinked location

/-! ### Making folders -/

theorem grows_makeFolder (made : tree.makeFolder path = .ok after) : Grows tree after := by
  unfold makeFolder at made
  rcases located : tree.locateLast path with fault | ⟨folder, last⟩
  · rw [located] at made
    cases made
  · rw [located] at made
    simp only [bind, Except.bind] at made
    split at made
    · split at made
      · cases made
      · rename_i missing
        cases made
        exact grows_put missing (by simp)
    · cases made

theorem grows_ensureFolder (tree : FileTree) (path : Path) :
    Grows tree (tree.ensureFolder path).1 := by
  unfold ensureFolder
  split
  · rename_i made
    exact grows_makeFolder made
  · exact Grows.refl tree

theorem grows_makeFoldersUpTo (count : Nat) (tree : FileTree) (path : Path) :
    Grows tree (makeFoldersUpTo count tree path).1 := by
  induction count generalizing path with
  | zero => exact Grows.refl tree
  | succ count ih =>
      unfold makeFoldersUpTo
      split
      · exact Grows.refl tree
      · split
        · rename_i made
          exact grows_makeFolder made
        · split
          · exact Grows.refl tree
          · rename_i parent _
            have above := ih parent
            split
            · rename_i made
              rw [made] at above
              exact above.trans (grows_ensureFolder _ path)
            · rename_i failed
              rw [failed] at above
              exact above
        · exact Grows.refl tree

theorem grows_makeFolders (tree : FileTree) (path : Path) :
    Grows tree (tree.makeFolders path).1 :=
  grows_makeFoldersUpTo _ tree path

/-! ### Copying -/

theorem locate_of_locateForWriting (located : tree.locateForWriting path = .ok location) :
    tree.locate true path = .ok location := by
  unfold locateForWriting at located
  split at located
  · rcases ended : tree.locateLast path with fault | last
    · rw [ended] at located
      cases located
    · rw [ended] at located
      cases located
  · rcases found : tree.locate true path with fault | place
    · rw [found] at located
      cases located
    · rw [found] at located
      simp only [bind, Except.bind] at located
      split at located
      · cases located
      · cases located
        rfl

/-- A path that leads nowhere can only be written to where nothing is. -/
theorem find?_of_not_exists (absent : tree.exists? path = false)
    (located : tree.locate true path = .ok location) : tree.find? location = none := by
  rw [Option.eq_none_iff_forall_ne_some]
  intro node found
  have looked : tree.lookUp true path = .ok (location, node) :=
    lookUp_eq_ok_iff.2 ⟨located, found⟩
  rw [exists?, nodeAt?, looked] at absent
  cases absent

/--
A copy is where its target leads to, and holds what its source leads to unless that is there, too.
-/
theorem copyFile_eq_ok_iff :
    tree.copyFile source target = .ok after ↔
      ∃ origin content place, tree.lookUp true source = .ok (origin, .file content) ∧
        tree.locateForWriting target = .ok place ∧
        after = tree.put place (.file (if place = origin then "" else content)) := by
  unfold copyFile
  rcases looked : tree.lookUp true source with fault | ⟨origin, node⟩
  · simp [bind, Except.bind]
  · cases node with
    | folder => simp [bind, Except.bind, throw, throwThe, MonadExceptOf.throw]
    | link other => simp [bind, Except.bind, throw, throwThe, MonadExceptOf.throw]
    | file content =>
        simp only [bind, Except.bind]
        rcases tree.locateForWriting target with fault | place
        · simp
        · simp [pure, Except.pure, eq_comm]

/-- A copy that is made where nothing is holds what its source leads to. -/
theorem eq_put_of_copyFile_of_absent (absent : tree.exists? target = false)
    (copied : tree.copyFile source target = .ok after) :
    ∃ origin content place, tree.lookUp true source = .ok (origin, .file content) ∧
      tree.locate true target = .ok place ∧ tree.find? place = none ∧
      after = tree.put place (.file content) := by
  rcases copyFile_eq_ok_iff.1 copied with ⟨origin, content, place, looked, writable, shape⟩
  have found := locate_of_locateForWriting writable
  have missing := find?_of_not_exists absent found
  have different : place ≠ origin := by
    rintro rfl
    rw [(lookUp_eq_ok_iff.1 looked).2] at missing
    cases missing
  rw [if_neg different] at shape
  exact ⟨origin, content, place, looked, found, missing, shape⟩

/-- A file that is copied to where nothing is lies there afterwards, beside what it is a copy of. -/
theorem hasFile_of_copyFile (noLinks : tree.NoLinks) (here : tree.HasFolder tree.here)
    (absent : tree.exists? target = false) (copied : tree.copyFile source target = .ok after) :
    Grows tree after ∧ ∃ content location, tree.HasFile (lexical tree.here source) content ∧
      tree.find? location = none ∧ after.HasFile location content := by
  rcases eq_put_of_copyFile_of_absent absent copied with
    ⟨origin, content, place, looked, found, missing, rfl⟩
  rcases hasFile_of_lookUp noLinks here looked with ⟨rfl, original⟩
  have grows : Grows tree (tree.put place (.file content)) := grows_put missing (by simp)
  refine ⟨grows, content, place, original, missing, ?_, find?_put_of_none missing _⟩
  exact grows.hasFolder ((location_of_locate noLinks found).2 here)

end FileTree

end TagOrganizer
