import Mathlib.Data.List.Basic
import TagOrganizer.FileTree.Lookup

/-!
# What can be reached in a tree

A folder is reached from the root through folders, and a file lies in a folder that is reached. In a
tree without links a path leads where its text says, in every state of the tree in which it leads
anywhere (`location_of_lookUp`, `location_of_locateLast`).
-/

namespace TagOrganizer

namespace FileTree

/-- Whether nothing in a tree is a link. -/
def NoLinks (tree : FileTree) : Prop :=
  ∀ location target, tree.find? location ≠ some (.link target)

/-- Whether there are folders all the way from the root to a location. -/
def HasFolder (tree : FileTree) (location : Location) : Prop :=
  ∀ front, front <+: location → tree.find? front = some .folder

/-- Whether there is a file with some content at a location, in a folder that is reached. -/
def HasFile (tree : FileTree) (location : Location) (content : String) : Prop :=
  tree.HasFolder location.dropLast ∧ tree.find? location = some (.file content)

/-- Where a step leads from a location, if it can be taken. -/
def afterStep (location : Location) (step : String) : Location :=
  if step = "." then location
  else if step = ".." then location.dropLast
  else location ++ [step]

/-- Where steps lead from a location, if they can be taken. -/
def resolve (start : Location) (steps : List String) : Location :=
  steps.foldl afterStep start

/-- Where a path leads as it is written, if it leads anywhere. -/
def lexical (here : Location) (path : Path) : Location :=
  resolve (if path.isAbsolute then [] else here) (names path)

variable {tree : FileTree} {follow : Bool} {links : Nat} {steps : List String}
  {folder location : Location} {path : Path}

theorem hasFolder_nil (tree : FileTree) : tree.HasFolder [] := by
  intro front least
  rw [List.prefix_nil.1 least]
  rfl

theorem HasFolder.dropLast (reached : tree.HasFolder location) :
    tree.HasFolder location.dropLast :=
  fun front least => reached front (least.trans (List.dropLast_prefix location))

theorem HasFolder.append (reached : tree.HasFolder location) {name : String}
    (found : tree.find? (location ++ [name]) = some .folder) :
    tree.HasFolder (location ++ [name]) := by
  intro front least
  rcases List.prefix_concat_iff.1 least with rfl | inside
  · exact found
  · exact reached front inside

theorem resolve_append (start : Location) (front back : List String) :
    resolve start (front ++ back) = resolve (resolve start front) back :=
  List.foldl_append

theorem resolve_current (start : Location) (steps : List String) :
    resolve start (steps ++ ["."]) = resolve start steps := by
  rw [resolve_append]
  rfl

/-- A named step goes on from a folder, and ends the walk anywhere else. -/
theorem walk_name (noLinks : tree.NoLinks) {step : String} (proper : step ≠ "." ∧ step ≠ "..")
    (walked : tree.walk follow links (step :: steps) folder = .ok location) :
    (tree.find? (folder ++ [step]) = some .folder ∧
        tree.walk follow links steps (folder ++ [step]) = .ok location) ∨
      (steps = [] ∧ location = folder ++ [step] ∧
        tree.find? (folder ++ [step]) ≠ some .folder) := by
  rw [walk, if_neg proper.1, if_neg proper.2] at walked
  split at walked
  · cases walked
  · simp only at walked
    split at walked
    · rename_i missing
      split at walked
      · rename_i ended
        cases walked
        exact .inr ⟨List.isEmpty_iff.1 ended, rfl, by simp [missing]⟩
      · cases walked
    · rename_i found
      exact .inl ⟨found, walked⟩
    · rename_i found
      split at walked
      · rename_i ended
        cases walked
        exact .inr ⟨List.isEmpty_iff.1 ended, rfl, by simp [found]⟩
      · cases walked
    · rename_i found
      exact absurd found (noLinks _ _)

/-- Without links a walk that gets somewhere gets where its steps lead, through folders. -/
theorem location_of_walk (noLinks : tree.NoLinks)
    (walked : tree.walk follow links steps folder = .ok location) :
    location = resolve folder steps ∧
      (tree.HasFolder folder → tree.HasFolder location.dropLast) := by
  induction steps generalizing folder with
  | nil =>
      rw [walk] at walked
      cases walked
      exact ⟨rfl, HasFolder.dropLast⟩
  | cons step steps ih =>
      rw [resolve, List.foldl_cons, ← resolve, afterStep]
      by_cases current : step = "."
      · rw [walk, if_pos current] at walked
        rw [if_pos current]
        exact ih walked
      · rw [if_neg current]
        by_cases up : step = ".."
        · rw [walk, if_neg current, if_pos up] at walked
          rw [if_pos up]
          exact ⟨(ih walked).1, fun reached => (ih walked).2 reached.dropLast⟩
        · rw [if_neg up]
          rcases walk_name noLinks ⟨current, up⟩ walked with ⟨found, rest⟩ | ⟨rfl, rfl, -⟩
          · exact ⟨(ih rest).1, fun reached => (ih rest).2 (reached.append found)⟩
          · exact ⟨rfl, fun reached => by rwa [List.dropLast_concat]⟩

/-- Steps that lead to a folder, whatever links they follow, may go on. -/
theorem walk_append {start : Location} {rest : List String}
    (lies : tree.find? folder = some .folder)
    (further : ∀ links, tree.walk true links rest folder = .ok location)
    (walked : tree.walk true links steps start = .ok folder) :
    tree.walk true links (steps ++ rest) start = .ok location := by
  fun_induction walk tree true links steps start with
  | case1 links start =>
      cases walked
      exact further links
  | case2 links steps start ih =>
      rw [List.cons_append, walk, if_pos rfl]
      exact ih walked
  | case3 links steps start notCurrent ih =>
      rw [List.cons_append, walk, if_neg notCurrent, if_pos rfl]
      exact ih walked
  | case7 links step steps start notCurrent notUp short place found ih =>
      rw [List.cons_append, walk, if_neg notCurrent, if_neg notUp, if_neg short]
      simp only [place, found]
      exact ih walked
  | case12 step steps start notCurrent notUp short place target found follows links begin ih =>
      rw [List.cons_append, walk, if_neg notCurrent, if_neg notUp, if_neg short]
      simp only [place, found, Bool.not_true, Bool.and_false, Bool.false_eq_true, if_false]
      rw [← List.append_assoc]
      exact ih walked
  | case5 links step steps start notCurrent notUp short place found ended
  | case8 links step steps start notCurrent notUp short place content found ended =>
      -- What is reached with the last step is no folder.
      rw [← Except.ok.inj walked, found] at lies
      cases lies
  | case10 links step steps start notCurrent notUp short place target found ended =>
      simp at ended
  | case4 | case6 | case9 | case11 => cases walked

/-- Whether a text can be the name of an entry. -/
structure IsName (name : String) : Prop where
  filled : name ≠ ""
  notCurrent : name ≠ "."
  notUp : name ≠ ".."
  slashless : '/' ∉ name.toList
  short : name.utf8ByteSize ≤ mostNameBytes

/-- Walking along names gets to what is at their end, if there are folders on the way. -/
theorem walk_names {names : List String} (proper : ∀ name ∈ names, IsName name)
    (inside : ∀ front, front <+: names → front ≠ names →
      tree.find? (folder ++ front) = some .folder)
    {node : Node} (found : tree.find? (folder ++ names) = some node)
    (plain : ∀ target, node ≠ .link target) :
    tree.walk follow links names folder = .ok (folder ++ names) := by
  induction names generalizing folder with
  | nil => rw [walk, List.append_nil]
  | cons name names ih =>
      have first := proper name (by simp)
      have short : ¬mostNameBytes < name.utf8ByteSize := Nat.not_lt.2 first.short
      rw [walk, if_neg first.notCurrent, if_neg first.notUp, if_neg short]
      by_cases last : names = []
      · rw [last] at found ⊢
        simp only [found]
        cases node with
        | folder => rw [walk]
        | file content => rfl
        | link target => exact absurd rfl (plain target)
      · have here := inside [name] (by simp) (by simpa using Ne.symm last)
        simp only [here]
        have shape : folder ++ name :: names = folder ++ [name] ++ names := by simp
        rw [shape] at found ⊢
        refine ih (fun other present => proper other (by simp [present])) ?_ found
        intro front least different
        rw [List.append_assoc]
        exact inside (name :: front) (by simpa using least) (by simpa using different)

/-- A last step `.` asks for a folder and leads nowhere else, but has a link before it followed. -/
theorem walk_of_current (direct : follow = true ∨ tree.NoLinks)
    (walked : tree.walk follow links (steps ++ ["."]) folder = .ok location) :
    tree.walk follow links steps folder = .ok location := by
  fun_induction walk tree follow links steps folder with
  | case1 links start => simpa [walk] using walked
  | case2 links steps start ih =>
      rw [List.cons_append, walk, if_pos rfl] at walked
      exact ih walked
  | case3 links steps start notCurrent ih =>
      rw [List.cons_append, walk, if_neg notCurrent, if_pos rfl] at walked
      exact ih walked
  | case7 links step steps start notCurrent notUp short place found ih =>
      rw [List.cons_append, walk, if_neg notCurrent, if_neg notUp, if_neg short] at walked
      simp only [place, found] at walked
      exact ih walked
  | case12 step steps start notCurrent notUp short place target found follows links begin ih =>
      rw [List.cons_append, walk, if_neg notCurrent, if_neg notUp, if_neg short] at walked
      have unended : (steps ++ ["."]).isEmpty = false := by simp
      simp only [place, found, unended, Bool.false_and, Bool.false_eq_true, if_false] at walked
      rw [← List.append_assoc] at walked
      exact ih walked
  | case10 links step steps start notCurrent notUp short place target found ended =>
      -- Only a link itself is reached without a `.`, where the last link is not followed.
      rcases direct with follows | noLinks
      · simp [follows] at ended
      · exact absurd found (noLinks _ _)
  | case4 links step steps start notCurrent notUp long =>
      rw [List.cons_append, walk, if_neg notCurrent, if_neg notUp, if_pos long] at walked
      cases walked
  | case5 links step steps start notCurrent notUp short place found
  | case6 links step steps start notCurrent notUp short place found
  | case8 links step steps start notCurrent notUp short place content found
  | case9 links step steps start notCurrent notUp short place content found
  | case11 step steps start notCurrent notUp short place target found follows =>
      -- The `.` asks for a folder after the step, and there is none.
      rw [List.cons_append, walk, if_neg notCurrent, if_neg notUp, if_neg short] at walked
      simp [place, found] at walked

/-! ### Entries of a folder -/

theorem mem_entries_of_find? (inside : location ≠ []) {node : Node}
    (found : tree.find? location = some node) : (location, node) ∈ tree.entries := by
  rw [find?, if_neg inside, List.lookup_eq_some_iff] at found
  rcases found with ⟨front, back, shape, -⟩
  simp [shape]

theorem noLinks_of_entries
    (unlinked : ∀ entry ∈ tree.entries, ∀ target, entry.2 ≠ .link target) : tree.NoLinks := by
  intro location target found
  by_cases outside : location = []
  · rw [outside] at found
    cases found
  · exact unlinked _ (mem_entries_of_find? outside found) target rfl

theorem mem_children {name : String} {node : Node} :
    (name, node) ∈ tree.children folder ↔ (folder ++ [name], node) ∈ tree.entries := by
  simp only [children, List.mem_mergeSort, List.mem_filterMap]
  constructor
  · rintro ⟨⟨place, other⟩, present, named⟩
    split at named
    · split at named
      · rename_i same
        cases named
        rwa [← same]
      · cases named
    · cases named
  · intro present
    exact ⟨(folder ++ [name], node), present, by simp⟩

/-! ### Paths -/

theorem resolve_steps (start : Location) (path : Path) :
    resolve start (FileTree.steps path) = resolve start (names path) := by
  unfold FileTree.steps
  split
  · exact resolve_current _ _
  · rfl

/-- What a path leads to is where its text says, in a folder that is reached. -/
theorem location_of_locate (noLinks : tree.NoLinks)
    (located : tree.locate follow path = .ok location) :
    location = lexical tree.here path ∧
      (tree.HasFolder tree.here → tree.HasFolder location.dropLast) := by
  unfold locate at located
  split at located
  · cases located
  · rcases location_of_walk noLinks located with ⟨resolved, reached⟩
    rw [resolve_steps] at resolved
    refine ⟨resolved, fun here => reached ?_⟩
    unfold origin
    split
    · exact hasFolder_nil tree
    · exact here

theorem lookUp_eq_ok_iff {node : Node} :
    tree.lookUp follow path = .ok (location, node) ↔
      tree.locate follow path = .ok location ∧ tree.find? location = some node := by
  unfold lookUp
  cases located : tree.locate follow path with
  | error fault => simp [bind, Except.bind]
  | ok place =>
      simp only [bind, Except.bind, Except.ok.injEq]
      split
      · rename_i other found
        simp only [pure, Except.pure, Except.ok.injEq, Prod.mk.injEq]
        constructor
        · rintro ⟨rfl, rfl⟩
          exact ⟨rfl, found⟩
        · rintro ⟨rfl, same⟩
          rw [found] at same
          exact ⟨rfl, Option.some.inj same⟩
      · rename_i missing
        simp only [throw, throwThe, MonadExceptOf.throw, reduceCtorEq, false_iff, not_and]
        rintro rfl same
        rw [missing] at same
        cases same

theorem hasFile_of_lookUp (noLinks : tree.NoLinks) (here : tree.HasFolder tree.here)
    {content : String} (found : tree.lookUp true path = .ok (location, .file content)) :
    location = lexical tree.here path ∧ tree.HasFile location content := by
  rw [lookUp_eq_ok_iff] at found
  rcases location_of_locate noLinks found.1 with ⟨resolved, reached⟩
  exact ⟨resolved, reached here, found.2⟩

theorem textFault?_of_locateLast {last : LastStep}
    (located : tree.locateLast path = .ok (folder, last)) : textFault? path = none := by
  unfold locateLast at located
  split at located
  · cases located
  · assumption

/-- The last name of a path is a name where the text of the path says. -/
theorem location_of_locateLast (noLinks : tree.NoLinks) {name : String}
    (located : tree.locateLast path = .ok (folder, .name name)) :
    folder ++ [name] = lexical tree.here path := by
  unfold locateLast at located
  split at located
  · cases located
  · simp only at located
    split at located
    · cases located
    · rename_i last ended
      rcases List.getLast?_eq_some_iff.1 ended with ⟨front, shape⟩
      cases walked : tree.walk true mostLinks ((names path).dropLast ++ ["."])
          (tree.origin path) with
      | error fault =>
          rw [walked] at located
          cases located
      | ok place =>
          have resolved := (location_of_walk noLinks walked).1
          rw [resolve_current, shape, List.dropLast_concat] at resolved
          simp only [walked, bind, Except.bind, pure, Except.pure, throw, throwThe,
            MonadExceptOf.throw] at located
          split at located
          · cases located
          · split at located
            · cases located
            · split at located
              · cases located
              · rename_i notCurrent notUp _
                cases located
                rw [lexical, shape, resolve_append, ← origin, ← resolved]
                simp [resolve, afterStep, notCurrent, notUp]

end FileTree

end TagOrganizer
