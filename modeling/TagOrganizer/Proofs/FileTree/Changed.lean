import Mathlib.Logic.Relation
import TagOrganizer.Proofs.FileTree.Content
import TagOrganizer.Proofs.Path.Components

/-!
# Where trees are changed

In a tree without links each change is made where the text of a path says: a file is written or
removed there, a folder is removed with all below it, and folders are made there or on the way
(`makes_of_makeFolders`).
-/

namespace TagOrganizer

namespace FileTree

variable {tree after : FileTree} {location other : Location} {node : Node} {path : Path}

/-! ### Removing what is below a location -/

theorem find?_eraseBelow_of_outside (tree : FileTree) (outside : ¬location <+: other) :
    (tree.eraseBelow location).find? other = tree.find? other := by
  have kept : (!location.isPrefixOf other) = true := by
    rw [Bool.not_eq_true', ← Bool.not_eq_true, List.isPrefixOf_iff_prefix]
    exact outside
  unfold find? eraseBelow
  rw [lookup_filter tree.entries fun place => !location.isPrefixOf place, if_pos kept]

theorem find?_of_find?_eraseBelow (found : (tree.eraseBelow location).find? other = some node) :
    tree.find? other = some node := by
  by_cases outside : other = []
  · rw [outside] at found ⊢
    exact found
  · have present := mem_entries_of_find? outside found
    rw [find?_eraseBelow_of_outside] at found
    · exact found
    · rintro inside
      rw [eraseBelow, List.mem_filter] at present
      rw [List.isPrefixOf_iff_prefix.2 inside] at present
      cases present.2

theorem find?_eraseBelow_self (tree : FileTree) (inside : location ≠ []) :
    (tree.eraseBelow location).find? location = none := by
  rw [Option.eq_none_iff_forall_ne_some]
  intro node found
  have present := mem_entries_of_find? inside found
  rw [eraseBelow, List.mem_filter,
    List.isPrefixOf_iff_prefix.2 (List.prefix_refl location)] at present
  cases present.2

theorem NoLinks.eraseBelow (noLinks : tree.NoLinks) (location : Location) :
    (tree.eraseBelow location).NoLinks :=
  fun other target found => noLinks other target (find?_of_find?_eraseBelow found)

/-! ### Files are written and folders are removed where their paths say -/

theorem eq_put_of_copyFile (noLinks : tree.NoLinks) {source target : Path}
    (copied : tree.copyFile source target = .ok after) :
    ∃ content, after = tree.put (lexical tree.here target) (.file content) := by
  rcases copyFile_eq_ok_iff.1 copied with ⟨origin, content, place, -, writable, rfl⟩
  rw [← (location_of_locate noLinks (locate_of_locateForWriting writable)).1]
  exact ⟨_, rfl⟩

theorem eq_eraseBelow_of_removeTree (noLinks : tree.NoLinks)
    (removed : tree.removeTree path = .ok after) :
    after = tree.eraseBelow (lexical tree.here path) := by
  unfold removeTree at removed
  rcases looked : tree.lookUp false path with fault | ⟨place, node⟩
  · rw [looked] at removed
    cases removed
  · rw [looked] at removed
    rcases lookUp_eq_ok_iff.1 looked with ⟨located, found⟩
    rw [← (location_of_locate noLinks located).1]
    cases node with
    | file content => cases removed
    | link target => exact absurd found (noLinks place target)
    | folder =>
        simp only [bind, Except.bind] at removed
        split at removed
        · cases removed
        · cases removed
          rfl

/-! ### Folders are made on the way along a path -/

/-- Whether a folder is made where nothing is, at an allowed location. -/
def Makes (allowed : Location → Prop) (before after : FileTree) : Prop :=
  ∃ location, allowed location ∧ before.find? location = none ∧ after = before.put location .folder

variable {allowed : Location → Prop}

theorem makes_of_makeFolder (noLinks : tree.NoLinks) (admitted : allowed (lexical tree.here path))
    (made : tree.makeFolder path = .ok after) : Makes allowed tree after := by
  unfold makeFolder at made
  rcases located : tree.locateLast path with fault | ⟨folder, last⟩
  · rw [located] at made
    cases made
  · rw [located] at made
    cases last with
    | name name =>
        rw [← location_of_locateLast noLinks located] at admitted
        simp only [bind, Except.bind] at made
        cases found : tree.find? (folder ++ [name]) with
        | some node =>
            rw [found] at made
            cases made
        | none =>
            rw [found] at made
            cases made
            exact ⟨_, admitted, found, rfl⟩
    | root => cases made
    | current => cases made
    | up => cases made

theorem makes_of_makeFoldersUpTo (count : Nat) (noLinks : tree.NoLinks)
    (admitted : ∀ front, front <+: path.plainComponents → allowed (locationOf tree.here front)) :
    Relation.ReflTransGen (Makes allowed) tree (makeFoldersUpTo count tree path).1 := by
  induction count generalizing path with
  | zero => exact .refl
  | succ count ih =>
      have here : allowed (lexical tree.here path) := by
        rw [← locationOf_plainComponents]
        exact admitted _ (List.prefix_refl _)
      unfold makeFoldersUpTo
      split
      · exact .refl
      · split
        · rename_i made
          exact .single (makes_of_makeFolder noLinks here made)
        · split
          · exact .refl
          · rename_i parent lies
            have above := ih fun front least =>
              admitted front (least.trans (Path.prefix_of_parent? lies))
            have grows := grows_makeFoldersUpTo count tree parent
            split
            · rename_i between made
              rw [made] at above grows
              refine above.trans ?_
              unfold ensureFolder
              split
              · rename_i made
                rw [← grows.here] at here
                exact .single (makes_of_makeFolder (grows.noLinks noLinks) here made)
              · exact .refl
            · rename_i failed
              rw [failed] at above
              exact above
        · exact .refl

theorem makes_of_makeFolders (noLinks : tree.NoLinks)
    (admitted : ∀ front, front <+: path.plainComponents → allowed (locationOf tree.here front)) :
    Relation.ReflTransGen (Makes allowed) tree (tree.makeFolders path).1 :=
  makes_of_makeFoldersUpTo _ noLinks admitted

end FileTree

end TagOrganizer
