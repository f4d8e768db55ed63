import Mathlib.Data.List.Infix
import Mathlib.Data.List.Nodup
import Mathlib.Data.List.Perm.Subperm
import Mathlib.Data.List.Sort
import Mathlib.Data.String.Basic
import Mathlib.Order.Basic
import TagOrganizer.Proofs.FileTree.Walk

/-!
# The files below a folder

In a proper tree the files below a folder are those entries whose locations go on from that of the
folder. A walk reaches those that lie in a folder with a path that can be used. It lists them depth
first, the entries of each folder by their names, which is the lexicographic order of their
locations (`filesBelow_eq`), and each under a path that leads there (`canonical?_pathTo`).
-/

namespace TagOrganizer

namespace FileTree

instance decidableIsName (name : String) : Decidable (IsName name) :=
  decidable_of_iff
    (name ≠ "" ∧ name ≠ "." ∧ name ≠ ".." ∧ '/' ∉ name.toList ∧
      name.utf8ByteSize ≤ mostNameBytes)
    ⟨fun ⟨filled, notCurrent, notUp, slashless, short⟩ =>
        ⟨filled, notCurrent, notUp, slashless, short⟩,
      fun ⟨filled, notCurrent, notUp, slashless, short⟩ =>
        ⟨filled, notCurrent, notUp, slashless, short⟩⟩

/-- Whether a tree is one of files and folders: each entry has a place of its own in a folder. -/
structure Proper (tree : FileTree) : Prop where
  named : tree.Named
  single : (tree.entries.map Prod.fst).Nodup
  housed : ∀ location node, (location, node) ∈ tree.entries →
    tree.find? location.dropLast = some .folder

/-- Whether there is a file at a location. -/
def hasFileAt (tree : FileTree) (location : Location) : Bool :=
  match tree.find? location with
  | some (.file _) => true
  | _ => false

/-- Whether a name begins with a dot. -/
def beginsWithDot (name : String) : Bool :=
  ['.'].isPrefixOf name.toList

/-- Whether all names that begin with a dot are texts. -/
def LegibleDots (tree : FileTree) : Prop :=
  ∀ name ∈ tree.illegible, beginsWithDot name = false

/--
Whether a location is below a folder: right in it unless `recursive` is on, and under no name that
begins with a dot unless `hidden` is on.
-/
def isBelow (recursive hidden : Bool) (folder location : Location) : Bool :=
  folder.isPrefixOf location && location != folder &&
    (recursive || location.length == folder.length + 1) &&
    (hidden || (location.drop folder.length).all fun name => !beginsWithDot name)

/-- The locations of the files below a folder, in lexicographic order. -/
def locationsBelow (tree : FileTree) (recursive hidden : Bool) (folder : Location) :
    List Location :=
  ((tree.entries.map Prod.fst).filter fun location =>
    tree.hasFileAt location && isBelow recursive hidden folder location).mergeSort
      fun left right => left ≤ right

/-- The path of what is at a location below a folder that has a path. -/
def pathTo (folder : Location) (path : Path) (location : Location) : Path :=
  pathAlong path (location.drop folder.length)

/-- Whether the path of the folder around a location below a folder can be used. -/
def isReached (folder : Location) (path : Path) (location : Location) : Bool :=
  (textFault? (pathTo folder path location.dropLast)).isNone

variable {tree : FileTree} {recursive hidden : Bool} {folder location : Location} {path : Path}
  {depth : Nat} {along : List String} {node : Node}

theorem isHiddenName_eq (legible : tree.LegibleDots) (name : String) :
    tree.isHiddenName name = beginsWithDot name := by
  have dotted : decide (name.toList.head? = some '.') = beginsWithDot name := by
    rw [beginsWithDot, Bool.eq_iff_iff]
    cases name.toList with
    | nil => simp
    | cons first rest => simpa using eq_comm
  rw [isHiddenName, isText, dotted]
  cases begins : beginsWithDot name with
  | false => exact Bool.and_false _
  | true =>
      have text : name ∉ tree.illegible := fun among => by
        rw [legible name among] at begins
        cases begins
      simp [text]

theorem pathTo_append (folder : Location) (path : Path) (along : List String) :
    pathTo folder path (folder ++ along) = pathAlong path along := by
  rw [pathTo, List.drop_left]

theorem isReached_append (further : along ≠ []) :
    isReached folder path (folder ++ along) =
      (textFault? (pathAlong path along.dropLast)).isNone := by
  rw [isReached, List.dropLast_append_of_ne_nil further, pathTo_append]

theorem hasFileAt_iff :
    tree.hasFileAt location = true ↔ ∃ content, tree.find? location = some (.file content) := by
  unfold hasFileAt
  split
  · rename_i content found
    simp [found]
  · rename_i other
    simp only [Bool.false_eq_true, false_iff, not_exists]
    exact other

/-! ### Entries of a proper tree -/

/-- Whether a tree is proper is seen from its entries. -/
theorem proper_of_entries (named : ∀ entry ∈ tree.entries, ∀ name ∈ entry.1, IsName name)
    (single : (tree.entries.map Prod.fst).Nodup)
    (housed : ∀ entry ∈ tree.entries, tree.find? entry.1.dropLast = some .folder) :
    tree.Proper where
  named location node present := named (location, node) present
  single := single
  housed location node present := housed (location, node) present

theorem lookup_eq_some_iff_of_nodup {entries : List (Location × Node)}
    (single : (entries.map Prod.fst).Nodup) :
    entries.lookup location = some node ↔ (location, node) ∈ entries := by
  induction entries with
  | nil => simp
  | cons entry entries ih =>
      obtain ⟨place, other⟩ := entry
      rw [List.map_cons, List.nodup_cons] at single
      rw [List.lookup_cons, List.mem_cons, Prod.mk.injEq]
      by_cases same : location = place
      · subst same
        have outside : (location, node) ∉ entries :=
          fun present => single.1 (List.mem_map.2 ⟨_, present, rfl⟩)
        simp [outside, eq_comm]
      · simp [same, beq_eq_false_iff_ne.2 same, ih single.2]

namespace Proper

theorem mem_entries_iff (proper : tree.Proper) (inside : location ≠ []) :
    (location, node) ∈ tree.entries ↔ tree.find? location = some node := by
  rw [find?, if_neg inside]
  exact (lookup_eq_some_iff_of_nodup proper.single).symm

theorem mem_children_iff (proper : tree.Proper) {name : String} :
    (name, node) ∈ tree.children folder ↔ tree.find? (folder ++ [name]) = some node :=
  mem_children.trans (proper.mem_entries_iff (by simp))

/-- What lies below a location lies in a folder there. -/
theorem find?_front (proper : tree.Proper) (further : along ≠ [])
    (found : tree.find? (folder ++ along) = some node) : tree.find? folder = some .folder := by
  induction along using List.reverseRecOn generalizing node with
  | nil => exact absurd rfl further
  | append_singleton along name ih =>
      rw [← List.append_assoc] at found
      have lies := proper.housed _ _ ((proper.mem_entries_iff (by simp)).2 found)
      rw [List.dropLast_concat] at lies
      cases along with
      | nil => rwa [List.append_nil] at lies
      | cons first rest => exact ih (by simp) lies

/-- On the way to what lies below a folder there are folders. -/
theorem find?_between (proper : tree.Proper) (found : tree.find? (folder ++ along) = some node) :
    ∀ front, front <+: along → front ≠ along → tree.find? (folder ++ front) = some .folder := by
  rintro front ⟨back, rfl⟩ different
  rw [← List.append_assoc] at found
  exact proper.find?_front (by simpa using different) found

theorem isName (proper : tree.Proper) (found : tree.find? (folder ++ along) = some node) :
    ∀ name ∈ along, IsName name := by
  intro name present
  have inside : folder ++ along ≠ [] := by
    intro none
    rw [(List.append_eq_nil_iff.1 none).2] at present
    cases present
  exact proper.named _ _ ((proper.mem_entries_iff inside).2 found) name
    (List.mem_append_right folder present)

/-- A location with something at it is not longer than the tree has entries. -/
theorem length_le (proper : tree.Proper) (found : tree.find? (folder ++ along) = some node) :
    along.length ≤ tree.entries.length := by
  -- The locations on the way are all different, and there is an entry at each of them.
  have fronts : ((List.range along.length).map fun count =>
      folder ++ along.take (count + 1)).Nodup := by
    refine List.Nodup.map_on ?_ List.nodup_range
    intro left leftIn right rightIn same
    have lengths := congrArg List.length (List.append_cancel_left same)
    rw [List.mem_range] at leftIn rightIn
    rw [List.length_take, List.length_take] at lengths
    omega
  have among : ((List.range along.length).map fun count =>
      folder ++ along.take (count + 1)) ⊆ tree.entries.map Prod.fst := by
    intro place present
    rcases List.mem_map.1 present with ⟨count, below, rfl⟩
    rw [List.mem_range] at below
    have split : folder ++ along = folder ++ along.take (count + 1) ++ along.drop (count + 1) := by
      rw [List.append_assoc, List.take_append_drop]
    have there : ∃ other, tree.find? (folder ++ along.take (count + 1)) = some other := by
      rw [split] at found
      by_cases last : along.drop (count + 1) = []
      · rw [last, List.append_nil] at found
        exact ⟨node, found⟩
      · exact ⟨.folder, proper.find?_front last found⟩
    rcases there with ⟨other, found⟩
    have inside : folder ++ along.take (count + 1) ≠ [] := by
      intro none
      have empty := congrArg List.length (List.append_eq_nil_iff.1 none).2
      rw [List.length_take, List.length_nil] at empty
      omega
    exact List.mem_map_of_mem ((proper.mem_entries_iff inside).2 found)
  simpa using (fronts.subperm among).length_le

end Proper

/-! ### The names along which files are listed -/

/--
The names along which the files below a folder are reached, nested at most `depth` deep, if the
folders are read under paths that begin with that of the folder.
-/
def namesWithin (tree : FileTree) (hidden : Bool) :
    (depth : Nat) → (folder : Location) → (path : Path) → List (List String)
  | 0, _, _ => []
  | depth + 1, folder, path =>
      if (textFault? path).isSome then []
      else
        (tree.children folder).flatMap fun (name, node) =>
          if tree.isHiddenName name && !hidden then []
          else
            match node with
            | .file _ => [[name]]
            | .folder =>
                (namesWithin tree hidden depth (folder ++ [name]) (path.join ⟨name⟩)).map
                  (name :: ·)
            | .link _ => []

/-- Apart from folders that cannot be read, a walk lists files by the names that lead to them. -/
theorem filterMap_filesWithin (tree : FileTree) (hidden : Bool) (depth : Nat) (folder : Location)
    (path : Path) :
    (tree.filesWithin hidden depth folder path).filterMap Except.toOption =
      (tree.namesWithin hidden depth folder path).map (pathAlong path) := by
  induction depth generalizing folder path with
  | zero => rfl
  | succ depth ih =>
      rw [filesWithin, namesWithin, readFolder]
      cases textFault? path with
      | some fault => rfl
      | none =>
          simp only [Option.isSome_none, Bool.false_eq_true, if_false]
          rw [List.filterMap_flatMap, List.map_flatMap]
          congr 1
          funext child
          obtain ⟨name, node⟩ := child
          simp only
          split
          · rfl
          · cases node with
            | file content => rfl
            | folder =>
                rw [ih, List.map_map]
                rfl
            | link target => rfl

theorem mem_namesWithin_iff (proper : tree.Proper) (filled : path.isEmpty = false) :
    along ∈ tree.namesWithin hidden depth folder path ↔
      along ≠ [] ∧ along.length ≤ depth ∧
        (hidden = true ∨ ∀ name ∈ along, tree.isHiddenName name = false) ∧
        textFault? (pathAlong path along.dropLast) = none ∧
        ∃ content, tree.find? (folder ++ along) = some (.file content) := by
  induction depth generalizing folder path along with
  | zero =>
      simp only [namesWithin, List.not_mem_nil, Nat.le_zero, false_iff]
      rintro ⟨further, none, -⟩
      exact further (List.length_eq_zero_iff.1 none)
  | succ depth ih =>
      rw [namesWithin]
      constructor
      · intro listed
        split at listed
        · cases listed
        · rename_i usable
          rw [Option.not_isSome_iff_eq_none] at usable
          rcases List.mem_flatMap.1 listed with ⟨⟨name, node⟩, child, listed⟩
          have found := proper.mem_children_iff.1 child
          have named : IsName name := proper.isName found name (by simp)
          simp only at listed
          split at listed
          · cases listed
          · rename_i shown
            have shown : hidden = true ∨ tree.isHiddenName name = false := by
              cases hidden <;> simp_all
            cases node with
            | link target => cases listed
            | file content =>
                rw [List.mem_singleton.1 listed]
                exact ⟨by simp, by simp, by simpa using shown, usable, content, found⟩
            | folder =>
                rcases List.mem_map.1 listed with ⟨rest, within, rfl⟩
                rcases (ih (Path.isEmpty_join named.isEmpty)).1 within with
                  ⟨further, short, visible, around, content, there⟩
                refine ⟨by simp, by simpa using short, ?_, ?_, content, by simpa using there⟩
                · rw [List.forall_mem_cons]
                  tauto
                · rwa [List.dropLast_cons_of_ne_nil further]
      · rintro ⟨further, short, visible, around, content, found⟩
        cases along with
        | nil => exact absurd rfl further
        | cons name rest =>
            have names := proper.isName found
            have usable := textFault?_of_pathAlong filled
              (fun other present => names other (List.mem_of_mem_dropLast present)) around
            rw [if_neg (by simp [usable]), List.mem_flatMap]
            rw [List.forall_mem_cons] at visible names
            have shown : (tree.isHiddenName name && !hidden) = false := by
              rcases visible with all | ⟨first, -⟩
              · simp [all]
              · simp [first]
            cases rest with
            | nil => exact ⟨(name, .file content), proper.mem_children_iff.2 found, by simp [shown]⟩
            | cons next rest =>
                have shape : folder ++ name :: next :: rest = folder ++ [name] ++ next :: rest := by
                  simp
                rw [shape] at found
                have lies := proper.find?_front (by simp) found
                refine ⟨(name, .folder), proper.mem_children_iff.2 lies, ?_⟩
                simp only [shown, Bool.false_eq_true, if_false, List.mem_map]
                refine ⟨_, (ih (Path.isEmpty_join names.1.isEmpty)).2
                  ⟨by simp, by simpa using short, by tauto, ?_, content, found⟩, rfl⟩
                rwa [List.dropLast_cons_of_ne_nil (by simp)] at around

theorem location_of_child {entry : Location × Node} {child : String × Node}
    (named : (match entry.1.getLast? with
      | some name => if entry.1 = folder ++ [name] then some (name, entry.2) else none
      | none => none) = some child) : entry.1 = folder ++ [child.1] := by
  split at named
  · split at named
    · rename_i same
      cases named
      exact same
    · cases named
  · cases named

/-- The entries of a folder come in the order of their names, each name once. -/
theorem pairwise_children (proper : tree.Proper) (folder : Location) :
    (tree.children folder).Pairwise fun left right => left.1 < right.1 := by
  have ordered : (tree.children folder).Pairwise fun left right => left.1 ≤ right.1 := by
    refine (List.pairwise_mergeSort ?_ ?_ _).imp fun le => by simpa using le
    · simp only [decide_eq_true_eq]
      exact fun _ _ _ => le_trans
    · simp only [Bool.or_eq_true, decide_eq_true_eq]
      exact fun left right => le_total left.1 right.1
  have distinct : (tree.children folder).Pairwise fun left right => left.1 ≠ right.1 := by
    refine (List.mergeSort_perm _ _).symm.pairwise ?_ fun different => different.symm
    rw [List.pairwise_filterMap]
    refine (List.pairwise_map.1 proper.single).imp ?_
    rintro left right different child first other second same
    exact different ((location_of_child first).trans (same ▸ (location_of_child second).symm))
  refine (ordered.and distinct).imp ?_
  rintro left right ⟨le, different⟩
  exact lt_of_le_of_ne le different

theorem pairwise_namesWithin (proper : tree.Proper) (hidden : Bool) (depth : Nat)
    (folder : Location) (path : Path) :
    (tree.namesWithin hidden depth folder path).Pairwise (· < ·) := by
  induction depth generalizing folder path with
  | zero => exact List.Pairwise.nil
  | succ depth ih =>
      rw [namesWithin]
      split
      · exact List.Pairwise.nil
      rw [List.pairwise_flatMap]
      constructor
      · rintro ⟨name, node⟩ -
        simp only
        split
        · exact List.Pairwise.nil
        · cases node with
          | file content => exact List.pairwise_singleton _ _
          | link target => exact List.Pairwise.nil
          | folder =>
              refine List.pairwise_map.2 ((ih (folder ++ [name]) _).imp fun lt => ?_)
              exact List.cons_lt_cons_iff.2 (.inr ⟨rfl, lt⟩)
      · have begins {name : String} {node : Node} {along : List String}
            (listed : along ∈ if tree.isHiddenName name && !hidden then [] else
              match node with
              | .file _ => [[name]]
              | .folder =>
                  (namesWithin tree hidden depth (folder ++ [name]) (path.join ⟨name⟩)).map
                    (name :: ·)
              | .link _ => []) : ∃ rest, along = name :: rest := by
          split at listed
          · cases listed
          · cases node with
            | file content => exact ⟨[], List.mem_singleton.1 listed⟩
            | link target => cases listed
            | folder =>
                rcases List.mem_map.1 listed with ⟨rest, -, rfl⟩
                exact ⟨rest, rfl⟩
        refine (pairwise_children proper folder).imp ?_
        rintro ⟨name, node⟩ ⟨later, other⟩ before along here next there
        rcases begins here with ⟨rest, rfl⟩
        rcases begins there with ⟨others, rfl⟩
        exact List.cons_lt_cons_iff.2 (.inl before)

/-! ### The files that are listed -/

theorem mem_locationsBelow_iff (proper : tree.Proper) :
    location ∈ tree.locationsBelow recursive hidden folder ↔
      (∃ content, tree.find? location = some (.file content)) ∧
        isBelow recursive hidden folder location = true := by
  rw [locationsBelow, List.mem_mergeSort, List.mem_filter, Bool.and_eq_true, hasFileAt_iff]
  refine ⟨And.right, fun holds => ⟨?_, holds⟩⟩
  rcases holds.1 with ⟨content, found⟩
  have inside : location ≠ [] := by
    rintro rfl
    cases found
  exact List.mem_map_of_mem ((proper.mem_entries_iff inside).2 found)

theorem pairwise_locationsBelow (proper : tree.Proper) (recursive hidden : Bool)
    (folder : Location) : (tree.locationsBelow recursive hidden folder).Pairwise (· < ·) := by
  have ordered : (tree.locationsBelow recursive hidden folder).Pairwise (· ≤ ·) := by
    refine (List.pairwise_mergeSort ?_ ?_ _).imp fun le => by simpa using le
    · simp only [decide_eq_true_eq]
      exact fun _ _ _ => le_trans
    · simp only [Bool.or_eq_true, decide_eq_true_eq]
      exact le_total
  have distinct : (tree.locationsBelow recursive hidden folder).Pairwise (· ≠ ·) :=
    (List.mergeSort_perm _ _).symm.pairwise (proper.single.filter _) fun different => different.symm
  exact (ordered.and distinct).imp fun both => lt_of_le_of_ne both.1 both.2

theorem exists_append_of_isBelow (below : isBelow recursive hidden folder location = true) :
    ∃ along, along ≠ [] ∧ location = folder ++ along := by
  simp only [isBelow, Bool.and_eq_true, List.isPrefixOf_iff_prefix] at below
  rcases below.1.1.1 with ⟨along, rfl⟩
  refine ⟨along, ?_, rfl⟩
  rintro rfl
  simp at below

theorem isBelow_append_iff (further : along ≠ []) :
    isBelow recursive hidden folder (folder ++ along) = true ↔
      (recursive = true ∨ along.length = 1) ∧
        (hidden = true ∨ ∀ name ∈ along, beginsWithDot name = false) := by
  simp [isBelow, further]

/-- The files that are reached below a folder come in the lexicographic order of their locations. -/
theorem filesBelow_eq (proper : tree.Proper) (legible : tree.LegibleDots)
    (filled : path.isEmpty = false) (recursive hidden : Bool) (folder : Location) :
    (tree.filesBelow recursive hidden folder path).filterMap Except.toOption =
      ((tree.locationsBelow recursive hidden folder).filter (isReached folder path)).map
        (pathTo folder path) := by
  have listed : (tree.namesWithin hidden (if recursive then tree.entries.length + 1 else 1)
      folder path).map (folder ++ ·) =
        (tree.locationsBelow recursive hidden folder).filter (isReached folder path) := by
    refine List.Pairwise.eq_of_mem_iff ?_
      ((pairwise_locationsBelow proper recursive hidden folder).filter _) fun location => ?_
    · exact List.pairwise_map.2 ((pairwise_namesWithin proper _ _ _ _).imp List.append_left_lt)
    · rw [List.mem_filter, mem_locationsBelow_iff proper, List.mem_map]
      constructor
      · rintro ⟨along, within, rfl⟩
        rcases (mem_namesWithin_iff proper filled).1 within with
          ⟨further, short, visible, around, found⟩
        simp only [isHiddenName_eq legible] at visible
        rw [isReached_append further, around]
        refine ⟨⟨found, (isBelow_append_iff further).2 ⟨?_, visible⟩⟩, rfl⟩
        cases recursive with
        | true => exact .inl rfl
        | false =>
            have filled := List.length_pos_iff.2 further
            simp only [Bool.false_eq_true, if_false] at short
            exact .inr (by omega)
      · rintro ⟨⟨⟨content, found⟩, below⟩, around⟩
        rcases exists_append_of_isBelow below with ⟨along, further, rfl⟩
        rcases (isBelow_append_iff further).1 below with ⟨near, visible⟩
        simp only [← isHiddenName_eq legible] at visible
        rw [isReached_append further, Option.isNone_iff_eq_none] at around
        refine ⟨along, (mem_namesWithin_iff proper filled).2
          ⟨further, ?_, visible, around, content, found⟩, rfl⟩
        have bounded := proper.length_le found
        cases recursive with
        | true => simpa using bounded.trans (Nat.le_succ _)
        | false => simpa using (near.resolve_left Bool.false_ne_true).le
  rw [filesBelow, filterMap_filesWithin, ← listed, List.map_map]
  exact List.map_congr_left fun along _ => (pathTo_append folder path along).symm

/-! ### Paths of what is listed -/

/-- The path of a file that is listed leads to it, unless it is too long. -/
theorem canonical?_pathTo (proper : tree.Proper)
    (found : tree.lookUp true path = .ok (folder, .folder))
    (listed : location ∈ tree.locationsBelow recursive hidden folder)
    (usable : textFault? (pathTo folder path location) = none) :
    tree.canonical? (pathTo folder path location) = some location := by
  rcases (mem_locationsBelow_iff proper).1 listed with ⟨⟨content, there⟩, below⟩
  rcases exists_append_of_isBelow below with ⟨along, further, rfl⟩
  rw [pathTo_append] at usable ⊢
  have named := proper.isName there
  have located := locate_pathAlong found named further (proper.find?_between there) there (by simp)
    usable
  rw [canonical?, lookUp_eq_ok_iff.2 ⟨located, there⟩]
  rfl

/-- A file that is listed is where its path leads by names, unless it is too deep. -/
theorem resolved?_pathTo (proper : tree.Proper)
    (found : tree.lookUp true path = .ok (folder, .folder))
    (listed : location ∈ tree.locationsBelow recursive hidden folder) :
    tree.resolved? (pathTo folder path location) =
      if (pathTo folder path location).text.toList.contains '\x00' then none
      else if pathBytes location < pathByteLimit then some location else none := by
  rcases (mem_locationsBelow_iff proper).1 listed with ⟨⟨content, there⟩, below⟩
  rcases exists_append_of_isBelow below with ⟨along, further, rfl⟩
  have named := proper.isName there
  have filled := isEmpty_of_textFault? (textFault?_of_locate (lookUp_eq_ok_iff.1 found).1)
  rw [pathTo_append, resolved?, isEmpty_pathAlong filled named, Bool.or_false,
    walk_pathAlong found named further (proper.find?_between there) there (by simp)]
  simp only
  rw [there, Option.isSome_some, Bool.true_and]
  simp only [decide_eq_true_eq]

theorem IsName.fileName?_join {name : String} (filled : path.isEmpty = false)
    (proper : IsName name) : (path.join ⟨name⟩).fileName? = some name := by
  have read : (Path.mk name).segments.filterMap Path.Component.ofSegment? = [.name name] := by
    rw [Path.segments_of_slashless proper.slashless]
    simp [Path.Component.ofSegment?, proper.filled, proper.notCurrent, proper.notUp]
  rw [Path.fileName?, Path.components_join filled proper.isAbsolute, read, List.getLast?_concat]

theorem fileName?_pathAlong (filled : path.isEmpty = false) (proper : ∀ name ∈ along, IsName name)
    (further : along ≠ []) : (pathAlong path along).fileName? = along.getLast? := by
  induction along generalizing path with
  | nil => exact absurd rfl further
  | cons name along ih =>
      have first := proper name (by simp)
      cases along with
      | nil => exact first.fileName?_join filled
      | cons next along =>
          rw [pathAlong_cons, List.getLast?_cons_cons]
          exact ih (Path.isEmpty_join first.isEmpty)
            (fun other present => proper other (by simp [present])) (by simp)

/-- The name of a file that is listed is the last one of its location. -/
theorem fileName?_pathTo (proper : tree.Proper)
    (found : tree.lookUp true path = .ok (folder, .folder))
    (listed : location ∈ tree.locationsBelow recursive hidden folder) :
    (pathTo folder path location).fileName? = location.getLast? := by
  rcases (mem_locationsBelow_iff proper).1 listed with ⟨⟨content, there⟩, below⟩
  rcases exists_append_of_isBelow below with ⟨along, further, rfl⟩
  have named := proper.isName there
  have filled := isEmpty_of_textFault? (textFault?_of_locate (lookUp_eq_ok_iff.1 found).1)
  rw [pathTo_append, List.getLast?_append_of_ne_nil _ further]
  exact fileName?_pathAlong filled named further

end FileTree

end TagOrganizer
