import TagOrganizer.Proofs.FileTree.Below

/-!
# The folders below a folder

A walk that begins at a folder, and not at a link to one, reports the folders below it, those inside
a folder before the folder, as far as the folders that they lie in can be read
(`exists_foldersBelow`). The path of a folder that is reported leads to it (`lookUp_pathTo`), and
its last step is taken in the folder around it (`locateLast_pathTo`).
-/

namespace TagOrganizer

namespace FileTree

/-- Whether a location is below a folder. -/
def Below (folder location : Location) : Prop :=
  ∃ along, along ≠ [] ∧ location = folder ++ along

/--
The names along which the folders below a folder are reached, nested at most `depth` deep, those
inside a folder before it.
-/
def folderNames (tree : FileTree) : (depth : Nat) → (folder : Location) → List (List String)
  | 0, _ => []
  | depth + 1, folder =>
      (tree.children folder).flatMap fun (name, node) =>
        match node with
        | .folder => (folderNames tree depth (folder ++ [name])).map (name :: ·) ++ [[name]]
        | _ => []

/-- The locations of the folders below a folder, those inside a folder before it. -/
def foldersUnder (tree : FileTree) (folder : Location) : List Location :=
  (tree.folderNames (tree.entries.length + 1) folder).map (folder ++ ·)

/-- The locations of those folders below a folder that lie in a folder with a path of use. -/
def foldersReached (tree : FileTree) (folder : Location) (path : Path) : List Location :=
  (tree.foldersUnder folder).filter (isReached folder path)

/-- What is reported of the folders below a folder, nested at most `depth` deep. -/
def reportsWithin (tree : FileTree) :
    (depth : Nat) → (folder : Location) → (path : Path) → List (Except Unread Path)
  | 0, _, _ => []
  | depth + 1, folder, path =>
      match tree.readFolder folder path with
      | .error unread => [.error unread]
      | .ok children =>
          children.flatMap fun (name, node) =>
            match node with
            | .folder =>
                reportsWithin tree depth (folder ++ [name]) (path.join ⟨name⟩) ++
                  [.ok (path.join ⟨name⟩)]
            | _ => []

variable {tree : FileTree} {folder location : Location} {path : Path} {depth level : Nat}
  {along : List String} {node : Node}

/-! ### The folders that are there -/

theorem mem_folderNames_iff (proper : tree.Proper) :
    along ∈ tree.folderNames depth folder ↔
      along ≠ [] ∧ along.length ≤ depth ∧ tree.find? (folder ++ along) = some .folder := by
  induction depth generalizing folder along with
  | zero =>
      simp only [folderNames, List.not_mem_nil, Nat.le_zero, false_iff]
      rintro ⟨further, none, -⟩
      exact further (List.length_eq_zero_iff.1 none)
  | succ depth ih =>
      rw [folderNames, List.mem_flatMap]
      constructor
      · rintro ⟨⟨name, node⟩, child, listed⟩
        have found := proper.mem_children_iff.1 child
        cases node with
        | file content => cases listed
        | link target => cases listed
        | folder =>
            rcases List.mem_append.1 listed with within | last
            · rcases List.mem_map.1 within with ⟨rest, inside, rfl⟩
              rcases ih.1 inside with ⟨-, short, there⟩
              exact ⟨by simp, by simpa using short, by simpa using there⟩
            · rw [List.mem_singleton.1 last]
              exact ⟨by simp, by simp, found⟩
      · rintro ⟨further, short, found⟩
        cases along with
        | nil => exact absurd rfl further
        | cons name rest =>
            cases rest with
            | nil => exact ⟨(name, .folder), proper.mem_children_iff.2 found, by simp⟩
            | cons next rest =>
                have shape : folder ++ name :: next :: rest = folder ++ [name] ++ next :: rest := by
                  simp
                rw [shape] at found
                have lies := proper.find?_front (by simp) found
                refine ⟨(name, .folder), proper.mem_children_iff.2 lies, ?_⟩
                refine List.mem_append_left _ (List.mem_map.2 ⟨next :: rest, ?_, rfl⟩)
                exact ih.2 ⟨by simp, by simpa using short, found⟩

/-- No folder comes before another one that it is inside of. -/
theorem pairwise_folderNames (proper : tree.Proper) (depth : Nat) (folder : Location) :
    (tree.folderNames depth folder).Pairwise fun earlier later => ¬earlier <+: later := by
  induction depth generalizing folder with
  | zero => exact List.Pairwise.nil
  | succ depth ih =>
      rw [folderNames, List.pairwise_flatMap]
      constructor
      · rintro ⟨name, node⟩ -
        cases node with
        | file content => exact List.Pairwise.nil
        | link target => exact List.Pairwise.nil
        | folder =>
            refine List.pairwise_append.2 ⟨?_, List.pairwise_singleton _ _, ?_⟩
            · refine List.pairwise_map.2 ((ih (folder ++ [name])).imp fun apart above => ?_)
              exact apart (List.cons_prefix_cons.1 above).2
            · intro inner listed last only above
              rcases List.mem_map.1 listed with ⟨rest, inside, rfl⟩
              rw [List.mem_singleton.1 only, List.cons_prefix_cons, List.prefix_nil] at above
              exact ((mem_folderNames_iff proper).1 inside).1 above.2
      · have begins {name : String} {node : Node} {along : List String}
            (listed : along ∈ match node with
              | .folder => (folderNames tree depth (folder ++ [name])).map (name :: ·) ++ [[name]]
              | _ => []) : ∃ rest, along = name :: rest := by
          cases node with
          | file content => cases listed
          | link target => cases listed
          | folder =>
              rcases List.mem_append.1 listed with within | last
              · rcases List.mem_map.1 within with ⟨rest, -, rfl⟩
                exact ⟨rest, rfl⟩
              · exact ⟨[], List.mem_singleton.1 last⟩
        refine (pairwise_children proper folder).imp ?_
        rintro ⟨name, node⟩ ⟨later, other⟩ before along here next there above
        rcases begins here with ⟨rest, rfl⟩
        rcases begins there with ⟨others, rfl⟩
        exact absurd (List.cons_prefix_cons.1 above).1 (ne_of_lt before)

theorem mem_foldersUnder_iff (proper : tree.Proper) :
    location ∈ tree.foldersUnder folder ↔
      Below folder location ∧ tree.find? location = some .folder := by
  rw [foldersUnder, List.mem_map]
  constructor
  · rintro ⟨along, listed, rfl⟩
    rcases (mem_folderNames_iff proper).1 listed with ⟨further, -, found⟩
    exact ⟨⟨along, further, rfl⟩, found⟩
  · rintro ⟨⟨along, further, rfl⟩, found⟩
    have short := (proper.length_le found).trans (Nat.le_succ _)
    exact ⟨along, (mem_folderNames_iff proper).2 ⟨further, short, found⟩, rfl⟩

theorem pairwise_foldersUnder (proper : tree.Proper) (folder : Location) :
    (tree.foldersUnder folder).Pairwise fun earlier later => ¬earlier <+: later := by
  refine List.pairwise_map.2 ((pairwise_folderNames proper _ folder).imp fun apart above => ?_)
  exact apart ((List.prefix_append_right_inj folder).1 above)

/-! ### The walk -/

/-- A folder that waits on top of as many as are kept is reported. -/
theorem Visit.flush_cons {reported : List (Except Unread Path)} {waiting : List Path}
    (counted : waiting.length = level) (path : Path) :
    Visit.flush level ⟨reported, path :: waiting⟩ = ⟨reported ++ [.ok path], waiting⟩ := by
  simp [Visit.flush, counted]

/-- As long as each folder on the way waits, a walk reports all folders that it enters. -/
theorem visitFolders_eq (tree : FileTree) (depth : Nat) (folder : Location) (path : Path)
    (reported : List (Except Unread Path)) {waiting : List Path}
    (counted : waiting.length = level) :
    tree.visitFolders depth level folder path ⟨reported, waiting⟩ =
      ⟨reported ++ tree.reportsWithin depth folder path, waiting⟩ := by
  induction depth generalizing level folder path reported waiting with
  | zero => simp [visitFolders, reportsWithin]
  | succ depth ih =>
      rw [visitFolders, reportsWithin]
      cases tree.readFolder folder path with
      | error unread => rfl
      | ok children =>
          simp only
          induction children generalizing reported with
          | nil => simp
          | cons child children further =>
              obtain ⟨name, node⟩ := child
              rw [List.foldl_cons, List.flatMap_cons]
              cases node with
              | file content => exact further reported
              | link target => exact further reported
              | folder =>
                  have entered : (path.join ⟨name⟩ :: waiting).length = level + 1 := by
                    rw [List.length_cons, counted]
                  show List.foldl _ (Visit.flush level (tree.visitFolders depth (level + 1)
                    (folder ++ [name]) (path.join ⟨name⟩)
                    ⟨reported, path.join ⟨name⟩ :: waiting⟩)) children = _
                  rw [ih _ _ _ entered, Visit.flush_cons counted, further]
                  simp

/-! ### The folders that are reported -/

/-- Apart from folders that cannot be read, the folders that are reached are reported. -/
theorem filterMap_reportsWithin (proper : tree.Proper) (filled : path.isEmpty = false) :
    (tree.reportsWithin depth folder path).filterMap Except.toOption =
      ((tree.folderNames depth folder).filter fun along =>
        (textFault? (pathAlong path along.dropLast)).isNone).map (pathAlong path) := by
  induction depth generalizing folder path with
  | zero => rfl
  | succ depth ih =>
      rw [reportsWithin]
      cases read : tree.readFolder folder path with
      | error unread =>
          have none : ((tree.folderNames (depth + 1) folder).filter fun along =>
              (textFault? (pathAlong path along.dropLast)).isNone) = [] := by
            rw [List.filter_eq_nil_iff]
            intro along listed around
            have names := proper.isName ((mem_folderNames_iff proper).1 listed).2.2
            have usable := textFault?_of_pathAlong filled
              (fun name present => names name (List.mem_of_mem_dropLast present))
              (Option.isNone_iff_eq_none.1 around)
            rw [readFolder, usable] at read
            cases read
          rw [none]
          rfl
      | ok children =>
          rcases readFolder_eq_ok_iff.1 read with ⟨usable, rfl⟩
          simp only
          rw [folderNames, List.filterMap_flatMap, List.filter_flatMap, List.map_flatMap]
          refine List.flatMap_congr fun child present => ?_
          obtain ⟨name, node⟩ := child
          cases node with
          | file content => rfl
          | link target => rfl
          | folder =>
              have named := proper.isName (proper.mem_children_iff.1 present) name (by simp)
              simp only [List.filterMap_append, List.filter_append, List.map_append]
              rw [ih (Path.isEmpty_join named.isEmpty), List.filter_map, List.map_map]
              congr 1
              · congr 1
                refine List.filter_congr fun along listed => ?_
                have further := ((mem_folderNames_iff proper).1 listed).1
                rw [Function.comp, List.dropLast_cons_of_ne_nil further, pathAlong_cons]
              · simp [usable, pathAlong, Except.toOption]

/-- A walk that begins at a folder reports the folders below it that are reached. -/
theorem exists_foldersBelow (proper : tree.Proper)
    (found : tree.lookUp false path = .ok (folder, .folder)) :
    ∃ reported, tree.foldersBelow path = .ok reported ∧
      reported.filterMap Except.toOption =
        (tree.foldersReached folder path).map (pathTo folder path) := by
  have filled := isEmpty_of_textFault? (textFault?_of_locate (lookUp_eq_ok_iff.1 found).1)
  refine ⟨tree.reportsWithin (tree.entries.length + 1) folder path, ?_, ?_⟩
  · rw [foldersBelow, found]
    simp only [bind, Except.bind, pure, Except.pure]
    rw [visitFolders_eq tree _ folder path [] (List.length_singleton), List.nil_append]
  · rw [filterMap_reportsWithin proper filled, foldersReached, foldersUnder, List.filter_map,
      List.map_map]
    have shape : pathTo folder path ∘ (folder ++ ·) = pathAlong path :=
      funext fun along => pathTo_append folder path along
    rw [shape]
    congr 1
    refine List.filter_congr fun along listed => ?_
    have further := ((mem_folderNames_iff proper).1 listed).1
    exact (isReached_append further).symm

/-- What has a path of use itself is in a folder with such a path. -/
theorem isReached_of_usable (proper : tree.Proper) (filled : path.isEmpty = false)
    (below : Below folder location) (there : tree.find? location = some node)
    (usable : textFault? (pathTo folder path location) = none) :
    isReached folder path location = true := by
  rcases below with ⟨along, further, rfl⟩
  have named := proper.isName there
  rw [pathTo_append, ← List.dropLast_append_getLast further] at usable
  rw [← List.dropLast_append_getLast further] at named
  rw [isReached_append further, Option.isNone_iff_eq_none]
  exact textFault?_of_pathAlong_append filled named usable

/-! ### Their paths -/

/-- Steps that lead to a folder lead there also if a link at the end is followed. -/
theorem walk_follow {follow : Bool} {links : Nat} {steps : List String} {start : Location}
    (lies : tree.find? folder = some .folder)
    (walked : tree.walk follow links steps start = .ok folder) :
    tree.walk true links steps start = .ok folder := by
  fun_induction walk tree follow links steps start with
  | case1 links start => rwa [walk]
  | case2 links steps start ih =>
      rw [walk, if_pos rfl]
      exact ih walked
  | case3 links steps start notCurrent ih =>
      rw [walk, if_neg notCurrent, if_pos rfl]
      exact ih walked
  | case7 links step steps start notCurrent notUp short place found ih =>
      rw [walk, if_neg notCurrent, if_neg notUp, if_neg short]
      simp only [place, found]
      exact ih walked
  | case12 step steps start notCurrent notUp short place target found follows links begin ih =>
      rw [walk, if_neg notCurrent, if_neg notUp, if_neg short]
      simp only [place, found, Bool.not_true, Bool.and_false, Bool.false_eq_true, if_false]
      exact ih walked
  | case5 links step steps start notCurrent notUp short place found ended
  | case8 links step steps start notCurrent notUp short place content found ended
  | case10 links step steps start notCurrent notUp short place target found ended =>
      -- What is reached with the last step is no folder.
      rw [← Except.ok.inj walked, found] at lies
      cases lies
  | case4 | case6 | case9 | case11 => cases walked

/-- A path that leads to a folder leads there also if a link at its end is followed. -/
theorem lookUp_follow {follow : Bool} (found : tree.lookUp follow path = .ok (folder, .folder)) :
    tree.lookUp true path = .ok (folder, .folder) := by
  rw [lookUp_eq_ok_iff] at found ⊢
  refine ⟨?_, found.2⟩
  have located := found.1
  unfold locate at located ⊢
  split at located
  · cases located
  · exact walk_follow found.2 located

/-- The path of a folder that is reported leads to it, unless it is too long. -/
theorem lookUp_pathTo (proper : tree.Proper)
    (found : tree.lookUp true path = .ok (folder, .folder)) (below : Below folder location)
    (there : tree.find? location = some .folder)
    (usable : textFault? (pathTo folder path location) = none) :
    tree.lookUp true (pathTo folder path location) = .ok (location, .folder) := by
  rcases below with ⟨along, further, rfl⟩
  rw [pathTo, List.drop_left] at usable ⊢
  exact lookUp_eq_ok_iff.2 ⟨locate_pathAlong found (proper.isName there) further
    (proper.find?_between there) there (by simp) usable, there⟩

/-- The last step along the path of a folder is taken in the folder around it. -/
theorem locateLast_pathTo (proper : tree.Proper)
    (found : tree.lookUp true path = .ok (folder, .folder)) (below : Below folder location)
    (there : tree.find? location = some .folder)
    (usable : textFault? (pathTo folder path location) = none) :
    ∃ around name, location = around ++ [name] ∧
      tree.locateLast (pathTo folder path location) = .ok (around, .name name) := by
  rcases below with ⟨along, further, rfl⟩
  rw [pathTo, List.drop_left] at usable ⊢
  rcases List.eq_nil_or_concat along with rfl | ⟨front, name, rfl⟩
  · exact absurd rfl further
  · rw [List.concat_eq_append] at there usable ⊢
    have named := proper.isName there
    have last := named name (by simp)
    have reached := lookUp_eq_ok_iff.1 found
    have filled := isEmpty_of_textFault? (textFault?_of_locate reached.1)
    rw [← List.append_assoc] at there
    have around : tree.find? (folder ++ front) = some .folder := proper.find?_front (by simp) there
    have walked : tree.walk true mostLinks (names path ++ front ++ ["."]) (tree.origin path) =
        .ok (folder ++ front) := by
      refine walk_append around (fun links => by rw [walk, if_pos rfl, walk]) ?_
      refine walk_append reached.2 ?_ (walk_names_of_locate (.inl rfl) reached.1)
      exact fun links => walk_names (fun other present => named other (by simp [present]))
        (proper.find?_between around) around (by simp)
    refine ⟨folder ++ front, name, by simp, ?_⟩
    have origin_eq : tree.origin (pathAlong path (front ++ [name])) = tree.origin path := by
      rw [origin, origin, isAbsolute_pathAlong filled named]
    simp only [locateLast, usable, names_pathAlong filled named, ← List.append_assoc,
      List.getLast?_concat, List.dropLast_concat]
    rw [origin_eq, walked]
    simp only [bind, Except.bind]
    rw [if_neg last.notCurrent, if_neg last.notUp, if_neg (Nat.not_lt.2 last.short)]
    rfl

end FileTree

end TagOrganizer
