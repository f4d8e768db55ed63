import TagOrganizer.Proofs.FileTree.Changed
import TagOrganizer.Proofs.FileTree.Walk

/-!
# Paths that keep leading somewhere

A path leads where it did as long as no folder is lost: in a tree that has grown, and in one from
which a file has been removed (`KeepsFolders.locate`). On the way to what a path leads to there are
folders only (`find?_of_front`).
-/

namespace TagOrganizer

namespace FileTree

variable {tree before after : FileTree} {follow : Bool} {links : Nat} {steps : List String}
  {folder location removed : Location} {path other source target : Path} {node : Node}
  {content : String}

/-! ### Trees that lose no folder -/

/-- Whether no folder of a tree is lost, and no link is added. -/
structure KeepsFolders (before after : FileTree) : Prop where
  kept : ∀ location, before.find? location = some .folder → after.find? location = some .folder
  here : after.here = before.here
  noLinks : before.NoLinks → after.NoLinks

theorem Grows.keepsFolders (grows : Grows before after) : KeepsFolders before after :=
  ⟨fun location found => grows.kept location .folder found, grows.here, grows.noLinks⟩

theorem keepsFolders_erase (there : tree.find? removed = some (.file content)) :
    KeepsFolders tree (tree.erase removed) where
  kept := by
    intro location found
    rw [find?_erase_of_ne]
    · exact found
    · rintro rfl
      rw [there] at found
      cases found
  here := rfl
  noLinks := fun noLinks => noLinks.erase removed

theorem short_of_walk {step : String} (proper : step ≠ "." ∧ step ≠ "..")
    (walked : tree.walk follow links (step :: steps) folder = .ok location) :
    ¬mostNameBytes < step.utf8ByteSize := by
  intro long
  rw [FileTree.walk, if_neg proper.1, if_neg proper.2, if_pos long] at walked
  cases walked

/-- Without links a walk may end with any name, also where nothing is. -/
theorem walk_last (noLinks : tree.NoLinks) {step : String} (proper : step ≠ "." ∧ step ≠ "..")
    (short : ¬mostNameBytes < step.utf8ByteSize) :
    tree.walk follow links [step] folder = .ok (folder ++ [step]) := by
  rw [FileTree.walk, if_neg proper.1, if_neg proper.2, if_neg short]
  cases found : tree.find? (folder ++ [step]) with
  | none => simp [found]
  | some node =>
      cases node with
      | folder => simp [found, FileTree.walk]
      | file content => simp [found]
      | link target => exact absurd found (noLinks _ _)

namespace KeepsFolders

theorem walk (keeps : KeepsFolders before after) (noLinks : before.NoLinks)
    (walked : before.walk follow links steps folder = .ok location) :
    after.walk follow links steps folder = .ok location := by
  induction steps generalizing folder with
  | nil =>
      rw [FileTree.walk] at walked ⊢
      exact walked
  | cons step steps ih =>
      by_cases current : step = "."
      · rw [FileTree.walk, if_pos current] at walked ⊢
        exact ih walked
      · by_cases up : step = ".."
        · rw [FileTree.walk, if_neg current, if_pos up] at walked ⊢
          exact ih walked
        · have short := short_of_walk ⟨current, up⟩ walked
          rcases walk_name noLinks ⟨current, up⟩ walked with ⟨inside, more⟩ | ⟨rfl, rfl, -⟩
          · rw [FileTree.walk, if_neg current, if_neg up, if_neg short]
            simp only [keeps.kept _ inside]
            exact ih more
          · exact walk_last (keeps.noLinks noLinks) ⟨current, up⟩ short

theorem locate (keeps : KeepsFolders before after) (noLinks : before.NoLinks)
    (located : before.locate follow path = .ok location) :
    after.locate follow path = .ok location := by
  have begun : after.origin path = before.origin path := by
    rw [origin, origin, keeps.here]
  unfold FileTree.locate at located ⊢
  split at located
  · cases located
  · rw [begun]
    exact keeps.walk noLinks located

end KeepsFolders

/-! ### What paths lead to -/

theorem nodeAt?_eq_some_iff (noLinks : tree.NoLinks) :
    tree.nodeAt? path = some node ↔
      tree.locate true path = .ok (lexical tree.here path) ∧
        tree.find? (lexical tree.here path) = some node := by
  rw [← lookUp_eq_ok_iff, nodeAt?]
  constructor
  · intro found
    rcases looked : tree.lookUp true path with fault | ⟨location, other⟩
    · rw [looked] at found
      cases found
    · rw [looked] at found
      cases found
      rw [(location_of_locate noLinks (lookUp_eq_ok_iff.1 looked).1).1]
  · intro looked
    rw [looked]
    rfl

theorem exists?_eq_true_iff : tree.exists? path = true ↔ ∃ node, tree.nodeAt? path = some node :=
  Option.isSome_iff_exists

/-- A path leads to what is where it led to, as long as no folder is lost. -/
theorem KeepsFolders.nodeAt? (keeps : KeepsFolders before after) (noLinks : before.NoLinks)
    {former : Node} (led : before.nodeAt? path = some former)
    (found : after.find? (lexical before.here path) = some node) :
    after.nodeAt? path = some node := by
  rw [nodeAt?_eq_some_iff (keeps.noLinks noLinks), keeps.here]
  exact ⟨keeps.locate noLinks ((nodeAt?_eq_some_iff noLinks).1 led).1, found⟩

theorem Grows.nodeAt? (grows : Grows before after) (noLinks : before.NoLinks)
    (found : before.nodeAt? path = some node) : after.nodeAt? path = some node :=
  grows.keepsFolders.nodeAt? noLinks found
    (grows.kept _ _ ((nodeAt?_eq_some_iff noLinks).1 found).2)

theorem Grows.exists? (grows : Grows before after) (noLinks : before.NoLinks)
    (there : before.exists? path = true) : after.exists? path = true := by
  rw [exists?_eq_true_iff] at there ⊢
  rcases there with ⟨node, found⟩
  exact ⟨node, grows.nodeAt? noLinks found⟩

theorem exists?_of_isSame (same : tree.isSame path other = true) : tree.exists? path = true := by
  unfold isSame canonical? at same
  unfold FileTree.exists? FileTree.nodeAt?
  cases looked : tree.lookUp true path with
  | error fault => simp [looked, Except.toOption] at same
  | ok found => rfl

/-- Paths that lead to the same location lead to the same thing. -/
theorem isSame_of_nodeAt? (noLinks : tree.NoLinks) {otherNode : Node}
    (led : tree.nodeAt? path = some node) (ledOther : tree.nodeAt? other = some otherNode)
    (same : lexical tree.here path = lexical tree.here other) : tree.isSame path other = true := by
  have looked := lookUp_eq_ok_iff.2 ((nodeAt?_eq_some_iff noLinks).1 led)
  have lookedOther := lookUp_eq_ok_iff.2 ((nodeAt?_eq_some_iff noLinks).1 ledOther)
  simp [isSame, canonical?, looked, lookedOther, Except.toOption, same]

/-- A file that has been copied lies where the target leads. -/
theorem nodeAt?_of_copyFile (noLinks : tree.NoLinks) (absent : tree.exists? target = false)
    (original : tree.nodeAt? source = some (.file content))
    (copied : tree.copyFile source target = .ok after) :
    tree.find? (lexical tree.here target) = none ∧
      after = tree.put (lexical tree.here target) (.file content) ∧
      after.nodeAt? target = some (.file content) := by
  rcases eq_put_of_copyFile_of_absent absent copied with
    ⟨origin, other, place, looked, located, missing, rfl⟩
  have same : other = content := by
    rw [FileTree.nodeAt?, looked] at original
    cases original
    rfl
  rw [same, ← (location_of_locate noLinks located).1]
  have grows : Grows tree (tree.put place (.file content)) := grows_put missing (by simp)
  refine ⟨missing, rfl, ?_⟩
  have shape := (location_of_locate noLinks located).1
  rw [nodeAt?_eq_some_iff (grows.noLinks noLinks), grows.here, ← shape]
  exact ⟨grows.keepsFolders.locate noLinks located, find?_put_of_none missing _⟩

/-! ### What is on the way along a path -/

theorem hasFolder_of_walk (noLinks : tree.NoLinks) {front back : List String}
    (start : tree.HasFolder folder) (further : back ≠ [])
    (walked : tree.walk follow links (front ++ back) folder = .ok location) :
    tree.HasFolder (resolve folder front) := by
  induction front generalizing folder with
  | nil => exact start
  | cons step front ih =>
      rw [List.cons_append] at walked
      rw [resolve, List.foldl_cons, ← resolve, afterStep]
      by_cases current : step = "."
      · rw [FileTree.walk, if_pos current] at walked
        rw [if_pos current]
        exact ih start walked
      · rw [if_neg current]
        by_cases up : step = ".."
        · rw [FileTree.walk, if_neg current, if_pos up] at walked
          rw [if_pos up]
          exact ih start.dropLast walked
        · rw [if_neg up]
          rcases walk_name noLinks ⟨current, up⟩ walked with ⟨found, rest⟩ | ⟨ended, -, -⟩
          · exact ih (start.append found) rest
          · exact absurd (List.append_eq_nil_iff.1 ended).2 further

/-- On the way to what a path leads to there are folders. -/
theorem find?_of_front (sound : tree.Sound) (located : tree.locate follow path = .ok location)
    {front : List Path.Component} (least : front <+: path.plainComponents)
    (different : front ≠ path.plainComponents) :
    tree.find? (locationOf tree.here front) = some .folder := by
  have walked := walk_names_of_locate (.inr sound.noLinks) located
  have begun : tree.HasFolder (tree.origin path) := by
    unfold origin
    split
    · exact hasFolder_nil tree
    · exact sound.here
  -- Components are read from names, and a part of them from a part of the names.
  have inner {part : List Path.Component}
      (least : part <+: (names path).filterMap Path.Component.ofSegment?)
      (different : part ≠ (names path).filterMap Path.Component.ofSegment?) :
      tree.find? (locationOf (tree.origin path) part) = some .folder := by
    rcases List.prefix_filterMap_iff.1 least with ⟨taken, ⟨rest, whole⟩, rfl⟩
    have filled : taken.filter (· != "") = taken := by
      rw [List.filter_eq_self]
      intro name present
      have among : name ∈ names path := by
        rw [← whole]
        exact List.mem_append_left _ present
      exact (List.mem_filter.1 among).2
    have further : rest ≠ [] := by
      rintro rfl
      rw [List.append_nil] at whole
      exact different (by rw [whole])
    rw [← whole] at walked
    rw [locationOf_ofSegment?, filled]
    exact hasFolder_of_walk sound.noLinks begun further walked _ (List.prefix_refl _)
  rw [Path.plainComponents_eq_names] at least different
  unfold Path.anchor at least different
  unfold origin at inner
  split at least
  · rename_i absolute
    rw [if_pos absolute] at inner different
    rcases List.prefix_cons_iff.1 least with rfl | ⟨part, rfl, inside⟩
    · exact sound.here _ (List.prefix_refl _)
    · exact inner inside (by simpa using different)
  · rename_i relative
    rw [if_neg relative] at inner different
    exact inner least different

end FileTree

end TagOrganizer
