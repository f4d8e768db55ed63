import TagOrganizer.FileTree.Walk
import TagOrganizer.Proofs.Path.Names

/-!
# What a listing leads to

The files that are listed below a folder have paths that go on from that of the folder by names. If
there is a file where such a path says, then the path leads to it.
-/

namespace TagOrganizer

namespace FileTree

/-- Whether all entries of a tree have names that entries can have. -/
def Named (tree : FileTree) : Prop :=
  ∀ location node, (location, node) ∈ tree.entries → ∀ name ∈ location, IsName name

variable {tree : FileTree} {folder : Location} {start path : Path} {name content : String}

/-- The path of what is reached from another path by names. -/
def pathAlong (start : Path) (along : List String) : Path :=
  along.foldl (fun path name => path.join ⟨name⟩) start

@[simp]
theorem pathAlong_cons (start : Path) (name : String) (along : List String) :
    pathAlong start (name :: along) = pathAlong (start.join ⟨name⟩) along := rfl

theorem endsInSlash_join (filled : start.isEmpty = false) (proper : IsName name) :
    endsInSlash (start.join ⟨name⟩) = false := by
  rw [Path.join_of_relative proper.isAbsolute filled, ← Bool.not_eq_true, endsInSlash,
    decide_eq_true_eq]
  intro ended
  have last : name.toList.getLast? = some '/' := by
    have chars : name.toList ≠ [] := by simpa using proper.filled
    simpa only [String.toList_append, List.getLast?_append_of_ne_nil _ chars] using ended
  exact proper.slashless (List.mem_of_getLast? last)

section Along

variable {along : List String} (filled : start.isEmpty = false)
  (proper : ∀ name ∈ along, IsName name)

include filled proper

theorem isEmpty_pathAlong : (pathAlong start along).isEmpty = false := by
  induction along generalizing start with
  | nil => exact filled
  | cons name along ih =>
      have first := proper name (by simp)
      rw [pathAlong_cons]
      exact ih (Path.isEmpty_join first.isEmpty)
        (fun other present => proper other (by simp [present]))

theorem isAbsolute_pathAlong : (pathAlong start along).isAbsolute = start.isAbsolute := by
  induction along generalizing start with
  | nil => rfl
  | cons name along ih =>
      have first := proper name (by simp)
      rw [pathAlong_cons, ih (Path.isEmpty_join first.isEmpty)
        (fun other present => proper other (by simp [present]))]
      exact Path.isAbsolute_join filled first.isAbsolute

theorem names_pathAlong : names (pathAlong start along) = names start ++ along := by
  induction along generalizing start with
  | nil =>
      rw [List.append_nil]
      rfl
  | cons name along ih =>
      have first := proper name (by simp)
      rw [pathAlong_cons, ih (Path.isEmpty_join first.isEmpty)
        (fun other present => proper other (by simp [present])), names_join filled first]
      simp

theorem endsInSlash_pathAlong (further : along ≠ []) :
    endsInSlash (pathAlong start along) = false := by
  induction along generalizing start with
  | nil => exact absurd rfl further
  | cons name along ih =>
      have first := proper name (by simp)
      cases along with
      | nil => exact endsInSlash_join filled first
      | cons next along =>
          rw [pathAlong_cons]
          exact ih (Path.isEmpty_join first.isEmpty)
            (fun other present => proper other (by simp [present])) (by simp)

end Along

theorem resolve_of_names {along : List String} (proper : ∀ name ∈ along, IsName name) :
    resolve folder along = folder ++ along := by
  induction along generalizing folder with
  | nil => rw [List.append_nil]; rfl
  | cons name along ih =>
      have first := proper name (by simp)
      rw [resolve, List.foldl_cons, ← resolve, afterStep, if_neg first.notCurrent,
        if_neg first.notUp, ih fun other present => proper other (by simp [present])]
      simp

/-- A folder is read if its path can be used. -/
theorem readFolder_eq_ok_iff {children : List (String × Node)} :
    tree.readFolder folder path = .ok children ↔
      textFault? path = none ∧ children = tree.children folder := by
  unfold readFolder
  cases textFault? path with
  | none => simp [eq_comm]
  | some fault => simp

/-- What is listed below a folder has a path that goes on by names. -/
theorem exists_pathAlong_of_mem_filesWithin (named : tree.Named) {hidden : Bool} {depth : Nat}
    (listed : .ok path ∈ tree.filesWithin hidden depth folder start) :
    ∃ along, along ≠ [] ∧ (∀ name ∈ along, IsName name) ∧ path = pathAlong start along := by
  induction depth generalizing folder start with
  | zero => cases listed
  | succ depth ih =>
      rw [filesWithin] at listed
      cases read : tree.readFolder folder start with
      | error unread => simp [read] at listed
      | ok children =>
          rcases readFolder_eq_ok_iff.1 read with ⟨-, rfl⟩
          simp only [read, List.mem_flatMap] at listed
          rcases listed with ⟨⟨name, node⟩, child, listed⟩
          have proper : IsName name := named _ _ (mem_children.1 child) name (by simp)
          simp only at listed
          split at listed
          · cases listed
          · cases node with
            | link target => cases listed
            | file content =>
                have joined := Except.ok.inj (List.mem_singleton.1 listed)
                exact ⟨[name], by simp, by simpa using proper, joined⟩
            | folder =>
                rcases ih listed with ⟨along, -, rest, rfl⟩
                refine ⟨name :: along, by simp, ?_, rfl⟩
                intro other present
                rcases List.mem_cons.1 present with rfl | later
                · exact proper
                · exact rest other later

theorem textFault?_eq_none_iff :
    textFault? path = none ↔ '\x00' ∉ path.text.toList ∧ path.isEmpty = false ∧
      path.text.utf8ByteSize < pathByteLimit := by
  simp only [textFault?, List.contains_iff_mem]
  split
  · simp [*]
  split
  · simp [*]
  split
  · simp [*]
  · simp_all

theorem isEmpty_of_textFault? (usable : textFault? path = none) : path.isEmpty = false :=
  (textFault?_eq_none_iff.1 usable).2.1

/-- A path that can be used with a name behind it can be used. -/
theorem textFault?_of_join (filled : start.isEmpty = false) (proper : IsName name)
    (usable : textFault? (start.join ⟨name⟩) = none) : textFault? start = none := by
  rw [Path.join_of_relative proper.isAbsolute filled, textFault?_eq_none_iff] at usable
  rcases usable with ⟨clean, -, short⟩
  rw [String.toList_append, String.toList_append, List.append_assoc] at clean
  rw [String.utf8ByteSize_append, String.utf8ByteSize_append] at short
  exact textFault?_eq_none_iff.2
    ⟨fun present => clean (List.mem_append_left _ present), filled, by omega⟩

theorem textFault?_of_pathAlong {along : List String} (filled : start.isEmpty = false)
    (proper : ∀ name ∈ along, IsName name) (usable : textFault? (pathAlong start along) = none) :
    textFault? start = none := by
  induction along generalizing start with
  | nil => exact usable
  | cons name along ih =>
      have first := proper name (by simp)
      exact textFault?_of_join filled first (ih (Path.isEmpty_join first.isEmpty)
        (fun other present => proper other (by simp [present])) usable)

/-- If a path can be used, so can what it goes on from. -/
theorem textFault?_of_pathAlong_append {front back : List String} (filled : start.isEmpty = false)
    (proper : ∀ name ∈ front ++ back, IsName name)
    (usable : textFault? (pathAlong start (front ++ back)) = none) :
    textFault? (pathAlong start front) = none := by
  induction front generalizing start with
  | nil => exact textFault?_of_pathAlong filled proper usable
  | cons name front ih =>
      rw [List.cons_append, List.forall_mem_cons] at proper
      exact ih (Path.isEmpty_join proper.1.isEmpty) proper.2 usable

theorem textFault?_of_locate {follow : Bool} (located : tree.locate follow path = .ok folder) :
    textFault? path = none := by
  unfold locate at located
  split at located
  · cases located
  · assumption

/-- The names of a path that leads somewhere lead there, also if the path ends in a slash. -/
theorem walk_names_of_locate {follow : Bool} (direct : follow = true ∨ tree.NoLinks)
    (located : tree.locate follow path = .ok folder) :
    tree.walk follow mostLinks (names path) (tree.origin path) = .ok folder := by
  have usable := textFault?_of_locate located
  rw [locate, usable] at located
  simp only [steps] at located
  split at located
  · exact walk_of_current direct located
  · exact located

section Found

variable {along : List String} {node : Node}
  (found : tree.lookUp true start = .ok (folder, .folder)) (proper : ∀ name ∈ along, IsName name)
  (further : along ≠ [])
  (inside : ∀ front, front <+: along → front ≠ along → tree.find? (folder ++ front) = some .folder)
  (there : tree.find? (folder ++ along) = some node) (plain : ∀ target, node ≠ .link target)

include found proper further inside there plain

/--
The steps of a path that goes on by names from one to a folder lead to what is there, unless it is
a link.
-/
theorem walk_pathAlong :
    tree.walk true mostLinks (steps (pathAlong start along))
      (tree.origin (pathAlong start along)) = .ok (folder ++ along) := by
  rw [lookUp_eq_ok_iff] at found
  have filled := isEmpty_of_textFault? (textFault?_of_locate found.1)
  rw [origin, isAbsolute_pathAlong filled proper, ← origin, steps,
    endsInSlash_pathAlong filled proper further, names_pathAlong filled proper]
  exact walk_append found.2 (fun links => walk_names proper inside there plain)
    (walk_names_of_locate (.inl rfl) found.1)

theorem locate_pathAlong (usable : textFault? (pathAlong start along) = none) :
    tree.locate true (pathAlong start along) = .ok (folder ++ along) := by
  rw [locate, usable]
  exact walk_pathAlong found proper further inside there plain

end Found

/-- A path that is listed below a folder leads to the file that is where the path says. -/
theorem canonical?_of_mem_filesBelow (noLinks : tree.NoLinks) (named : tree.Named)
    {recursive hidden : Bool} (found : tree.lookUp true start = .ok (folder, .folder))
    (listed : .ok path ∈ tree.filesBelow recursive hidden folder start)
    (usable : textFault? path = none)
    (there : tree.HasFile (lexical tree.here path) content) :
    tree.canonical? path = some (lexical tree.here path) := by
  rcases exists_pathAlong_of_mem_filesWithin named listed with ⟨along, further, proper, rfl⟩
  have reached := (lookUp_eq_ok_iff.1 found).1
  have filled := isEmpty_of_textFault? (textFault?_of_locate reached)
  have walked := walk_names_of_locate (.inl rfl) reached
  have place : lexical tree.here (pathAlong start along) = folder ++ along := by
    rw [lexical, isAbsolute_pathAlong filled proper, ← origin, names_pathAlong filled proper,
      resolve_append, ← (location_of_walk noLinks walked).1, resolve_of_names proper]
  rw [place] at there ⊢
  have located : tree.locate true (pathAlong start along) = .ok (folder ++ along) := by
    refine locate_pathAlong found proper further ?_ there.2 (by simp) usable
    intro front least different
    apply there.1 _
    rcases least with ⟨back, rfl⟩
    rw [← List.append_assoc, List.dropLast_append_of_ne_nil (by simpa using different)]
    exact List.prefix_append _ _
  have looked := lookUp_eq_ok_iff.2 ⟨located, there.2⟩
  rw [canonical?, looked]
  rfl

end FileTree

end TagOrganizer
