import TagOrganizer.Proofs.FileTree.Below
import TagOrganizer.Proofs.FileTree.Content

/-!
# Trees that have lost folders

When a tree has lost folders and nothing else, a path that still leads somewhere leads where it led
before, whatever links are followed on the way (`Sheds.locate`). A folder without entries can be
taken from a proper tree, which stays proper (`Proper.erase`).
-/

namespace TagOrganizer

namespace FileTree

/-- Whether a tree is left when some folders of another one are taken away. -/
structure Sheds (before after : FileTree) : Prop where
  here : after.here = before.here
  kept : ∀ location node, after.find? location = some node → before.find? location = some node
  lost : ∀ location node, before.find? location = some node → after.find? location = none →
    node = .folder

variable {tree before after : FileTree} {follow : Bool} {links : Nat} {steps : List String}
  {folder location : Location} {path : Path} {node : Node}

namespace Sheds

theorem refl (tree : FileTree) : Sheds tree tree where
  here := rfl
  kept := fun _ _ found => found
  lost := by
    intro location node found missing
    rw [found] at missing
    cases missing

theorem walk (sheds : Sheds before after)
    (walked : after.walk follow links steps folder = .ok location) :
    before.walk follow links steps folder = .ok location := by
  fun_induction FileTree.walk after follow links steps folder with
  | case1 links start => rwa [FileTree.walk]
  | case2 links steps start ih =>
      rw [FileTree.walk, if_pos rfl]
      exact ih walked
  | case3 links steps start notCurrent ih =>
      rw [FileTree.walk, if_neg notCurrent, if_pos rfl]
      exact ih walked
  | case5 links step steps start notCurrent notUp short place missing ended =>
      -- Where nothing is left at the end of the way, there was nothing before, or a folder.
      rw [FileTree.walk, if_neg notCurrent, if_neg notUp, if_neg short]
      rcases found : before.find? (start ++ [step]) with _ | node
      · simpa only [found, ended, if_true] using walked
      · rw [sheds.lost _ node found missing] at found
        rw [List.isEmpty_iff.1 ended]
        simpa only [found, FileTree.walk] using walked
  | case7 links step steps start notCurrent notUp short place found ih =>
      have there : before.find? (start ++ [step]) = some .folder := sheds.kept _ _ found
      rw [FileTree.walk, if_neg notCurrent, if_neg notUp, if_neg short]
      simp only [there]
      exact ih walked
  | case8 links step steps start notCurrent notUp short place content found ended =>
      have there : before.find? (start ++ [step]) = some (.file content) := sheds.kept _ _ found
      rw [FileTree.walk, if_neg notCurrent, if_neg notUp, if_neg short]
      simpa only [there, ended, if_true] using walked
  | case10 links step steps start notCurrent notUp short place target found ended =>
      have there : before.find? (start ++ [step]) = some (.link target) := sheds.kept _ _ found
      rw [FileTree.walk, if_neg notCurrent, if_neg notUp, if_neg short]
      simpa only [there, ended, if_true] using walked
  | case12 step steps start notCurrent notUp short place target found follows links begin ih =>
      have there : before.find? (start ++ [step]) = some (.link target) := sheds.kept _ _ found
      rw [FileTree.walk, if_neg notCurrent, if_neg notUp, if_neg short]
      simp only [there, follows]
      exact ih walked
  | case4 | case6 | case9 | case11 => cases walked

theorem origin (sheds : Sheds before after) (path : Path) :
    after.origin path = before.origin path := by
  rw [FileTree.origin, FileTree.origin, sheds.here]

/-- A path that still leads somewhere leads where it did. -/
theorem locate (sheds : Sheds before after) (located : after.locate follow path = .ok location) :
    before.locate follow path = .ok location := by
  unfold FileTree.locate at located ⊢
  split at located
  · cases located
  · rw [← sheds.origin]
    exact sheds.walk located

/-- What a path still leads to is what it led to. -/
theorem lookUp (sheds : Sheds before after)
    (looked : after.lookUp follow path = .ok (location, node)) :
    before.lookUp follow path = .ok (location, node) := by
  rw [lookUp_eq_ok_iff] at looked ⊢
  exact ⟨sheds.locate looked.1, sheds.kept location node looked.2⟩

/-- The last step of a path that can still be taken is taken where it was. -/
theorem locateLast (sheds : Sheds before after) {last : LastStep}
    (located : after.locateLast path = .ok (location, last)) :
    before.locateLast path = .ok (location, last) := by
  unfold FileTree.locateLast at located ⊢
  split at located
  · cases located
  · simp only at located ⊢
    split at located
    · exact located
    · rw [sheds.origin] at located
      cases walked : after.walk true mostLinks ((names path).dropLast ++ ["."])
          (before.origin path) with
      | error fault =>
          rw [walked] at located
          cases located
      | ok place =>
          rw [walked] at located
          rw [sheds.walk walked]
          exact located

end Sheds

/-! ### Taking a folder without entries -/

namespace Proper

theorem isHollow_iff (proper : tree.Proper) :
    tree.isHollow folder = true ↔ ∀ name, tree.find? (folder ++ [name]) = none := by
  refine ⟨find?_of_isHollow, fun missing => ?_⟩
  rw [isHollow, List.isEmpty_iff, List.eq_nil_iff_forall_not_mem]
  rintro ⟨name, node⟩ child
  rw [proper.mem_children_iff, missing name] at child
  cases child

/-- A proper tree stays proper when a folder without entries is taken from it. -/
theorem erase (proper : tree.Proper) (hollow : tree.isHollow folder = true) :
    (tree.erase folder).Proper where
  named := fun location node present =>
    proper.named location node (List.mem_filter.1 present).1
  single := proper.single.sublist (List.filter_sublist.map Prod.fst)
  housed := by
    intro location node present
    rcases List.mem_filter.1 present with ⟨among, -⟩
    by_cases lies : location.dropLast = folder
    · by_cases root : folder = []
      · rw [lies, root]
        rfl
      · -- What lies in the folder would be an entry of it.
        have inside : location ≠ [] := by
          rintro rfl
          exact root lies.symm
        have found := (proper.mem_entries_iff inside).1 among
        rw [← List.dropLast_append_getLast inside, lies, find?_of_isHollow hollow] at found
        cases found
    · rw [find?_erase_of_ne tree lies]
      exact proper.housed location node among

end Proper

end FileTree

end TagOrganizer
