import TagOrganizer.Proofs.FileTree.Content
import TagOrganizer.Proofs.FileTree.Ensures
import TagOrganizer.Pruning

/-!
# Pruning one folder

What pruning does when it comes to a folder: it tells that the folder makes trouble, passes it over
or removes it (`ensures_pruneFolder`). It removes only folders without entries, so that all files
stay where they are (`ensures_run`).
-/

namespace TagOrganizer

namespace Pruning

open FileTree Operation

/-- What pruning one folder does to the tally and to the tree. -/
inductive Pruned (trial : Bool) (tree : FileTree) (tally : Tally) (path : Path) :
    Tally → FileTree → Prop where
  | unread {fault : StorageFault} (trouble : isHollow tree path = .error fault) :
      Pruned trial tree tally path { tally with failures := tally.failures + 1 } tree
  | occupied (filled : isHollow tree path = .ok false) : Pruned trial tree tally path tally tree
  | listed (pretended : trial = true) (hollow : isHollow tree path = .ok true) :
      Pruned trial tree tally path { tally with removed := tally.removed ++ [path] } tree
  | removed {after : FileTree} (real : trial = false) (hollow : isHollow tree path = .ok true)
      (done : tree.removeFolder path = .ok after) :
      Pruned trial tree tally path { tally with removed := tally.removed ++ [path] } after
  | stuck {fault : StorageFault} (real : trial = false) (hollow : isHollow tree path = .ok true)
      (trouble : tree.removeFolder path = .error fault) :
      Pruned trial tree tally path { tally with failures := tally.failures + 1 } tree

variable {movable : Location → Prop} {trial : Bool} {start tree after : FileTree} {path : Path}
  {tally next : Tally} {reported : List (Except FileTree.Unread Path)}

theorem ensures_fail {fault : StorageFault}
    (pruned : Pruned trial tree tally path { tally with failures := tally.failures + 1 } tree) :
    (fail path fault tally).Ensures tree fun result after =>
      ∃ next, result = .ok next ∧ Pruned trial tree tally path next after :=
  ensures_bind (ensures_tell (ensures_pure ⟨_, rfl, pruned⟩))

theorem ensures_pruneFolder (trial : Bool) (tree : FileTree) (tally : Tally) (path : Path) :
    (pruneFolder trial tally path).Ensures tree fun result after =>
      ∃ next, result = .ok next ∧ Pruned trial tree tally path next after := by
  unfold pruneFolder
  apply ensures_bind (ensures_tree ?_)
  simp only
  split
  · rename_i trouble
    exact ensures_fail (.unread trouble)
  · rename_i filled
    exact ensures_bind (ensures_tell (ensures_pure ⟨tally, rfl, .occupied filled⟩))
  · rename_i hollow
    apply ensures_bind (ensures_tell ?_)
    simp only
    split
    · rename_i pretended
      exact ensures_bind (ensures_pure (ensures_pure ⟨_, rfl, .listed pretended hollow⟩))
    · rename_i real
      have real : trial = false := eq_false_of_ne_true real
      apply ensures_bind (ensures_attempt ?_ ?_)
      · exact fun after done => ensures_pure ⟨_, rfl, .removed real hollow done⟩
      · exact fun fault trouble => ensures_fail (.stuck real hollow trouble)

theorem Pruned.failures_le (pruned : Pruned trial tree tally path next after) :
    tally.failures ≤ next.failures := by
  cases pruned with
  | unread trouble => exact Nat.le_succ _
  | occupied filled => exact Nat.le_refl _
  | listed pretended hollow => exact Nat.le_refl _
  | removed real hollow done => exact Nat.le_refl _
  | stuck real hollow trouble => exact Nat.le_succ _

/-- A file that is there stays when a folder is pruned. -/
theorem Pruned.carries (pruned : Pruned trial tree tally path next after) :
    Carries movable tree after := by
  cases pruned with
  | unread trouble => exact Carries.refl movable tree
  | occupied filled => exact Carries.refl movable tree
  | listed pretended hollow => exact Carries.refl movable tree
  | removed real hollow done => exact carries_removeFolder done
  | stuck real hollow trouble => exact Carries.refl movable tree

/-- Pruning folders keeps all files where they are. -/
theorem ensures_pruneAll_carries (trial : Bool) (kept : Carries movable start tree) :
    (pruneAll trial reported).Ensures tree fun _ after => Carries movable start after := by
  refine ensures_foldlM_tree ?_ kept _
  intro tally item tree _ kept
  cases item with
  | error unread => exact ensures_bind (ensures_tell (ensures_pure kept))
  | ok path =>
      apply (ensures_pruneFolder trial tree tally path).mono
      rintro result after ⟨next, -, pruned⟩
      exact kept.trans pruned.carries

/-- Pruning below a folder keeps all files where they are. -/
theorem ensures_run (folder : Path) (trial : Bool) (kept : Carries movable start tree) :
    (run folder trial).Ensures tree fun _ after => Carries movable start after := by
  have pruned : (prune folder trial).Ensures tree fun _ after => Carries movable start after := by
    unfold prune
    apply ensures_bind (ensures_tree ?_)
    simp only
    split
    · exact ensures_pruneAll_carries trial kept
    · exact ensures_pruneAll_carries trial kept
  unfold run
  apply pruned.bind
  · intro error after holds
    exact holds
  · intro tally after holds
    exact ensures_pure holds

end Pruning

end TagOrganizer
