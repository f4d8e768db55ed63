import Mathlib
import TagOrganizer.Proofs.Collection
import TagOrganizer.Proofs.FileTree.Below

/-!
# Exactness of collecting

Calls that load the tagged files of folders, one after the other, collect exactly the files below
these folders whose names are admitted, as far as the folders that they lie in can be read. Each
file is collected once, at the path under which it is reached first: the folders come in the order
of the calls, the files below a folder in the lexicographic order of their locations
(`exact_of_ends_loadFolders`). A path that has no room for more hides what is in the folders inside
(`counts_of_long_path`).
-/

namespace TagOrganizer

/-! ### First occurrences -/

section Firsts

variable {α β : Type} [BEq β]

theorem eraseDupsBy_loop_append (same : α → α → Bool) (front back firsts : List α) :
    List.eraseDupsBy.loop same (front ++ back) firsts =
      List.eraseDupsBy.loop same back (List.eraseDupsBy.loop same front firsts).reverse := by
  induction front generalizing firsts with
  | nil => simp [List.eraseDupsBy.loop]
  | cons item front ih =>
      rw [List.cons_append, List.eraseDupsBy.loop, List.eraseDupsBy.loop]
      cases firsts.any (same item) with
      | true => exact ih firsts
      | false => exact ih (item :: firsts)

/-- What comes last is a first occurrence unless there is the same among the first ones before. -/
theorem eraseDupsBy_concat (same : α → α → Bool) (items : List α) (item : α) :
    (items ++ [item]).eraseDupsBy same =
      if (items.eraseDupsBy same).any (same item) then items.eraseDupsBy same
      else items.eraseDupsBy same ++ [item] := by
  rw [List.eraseDupsBy, eraseDupsBy_loop_append, List.eraseDupsBy.loop, List.any_reverse,
    ← List.eraseDupsBy]
  cases (items.eraseDupsBy same).any (same item) with
  | true => simp [List.eraseDupsBy.loop]
  | false => simp [List.eraseDupsBy.loop]

/-- The keys of what is first with its key are the first occurrences of the keys. -/
theorem map_eraseDupsBy (key : α → β) (items : List α) :
    (items.eraseDupsBy fun item other => key item == key other).map key =
      (items.map key).eraseDups := by
  induction items using List.reverseRecOn with
  | nil => rfl
  | append_singleton items item ih =>
      rw [List.map_append, List.eraseDups, List.map_singleton, eraseDupsBy_concat,
        eraseDupsBy_concat, ← List.eraseDups, ← ih, List.any_map]
      simp only [Function.comp_def]
      split
      · rfl
      · rw [List.map_append, List.map_singleton]

theorem sublist_eraseDupsBy (same : α → α → Bool) (items : List α) :
    List.Sublist (items.eraseDupsBy same) items := by
  induction items using List.reverseRecOn with
  | nil => exact List.Sublist.slnil
  | append_singleton items item ih =>
      rw [eraseDupsBy_concat]
      split
      · exact ih.trans (List.sublist_append_left _ _)
      · exact ih.append_right [item]

theorem nodup_eraseDups [LawfulBEq β] (keys : List β) : keys.eraseDups.Nodup := by
  induction keys using List.reverseRecOn with
  | nil => exact List.nodup_nil
  | append_singleton keys key ih =>
      rw [List.eraseDups, eraseDupsBy_concat, ← List.eraseDups]
      split
      · exact ih
      · rename_i fresh
        refine List.nodup_append.2 ⟨ih, List.nodup_singleton key, ?_⟩
        rintro other present last among rfl
        rw [List.mem_singleton] at among
        subst among
        exact fresh (List.any_eq_true.2 ⟨_, present, beq_self_eq_true _⟩)

end Firsts

/-! ### What calls find -/

/-- A call that loads the tagged files of a folder. -/
structure ScanCall where
  options : ScanOptions
  folder : Path

/-- A file below a folder: the path under which it is reached, and where it is. -/
structure Find where
  path : Path
  location : Location

/-- The files below the folder of a call, as far as the folders that they lie in can be read. -/
def ScanCall.finds (tree : FileTree) (call : ScanCall) : List Find :=
  match tree.lookUp true call.folder with
  | .ok (folder, .folder) =>
      ((tree.locationsBelow call.options.recursive call.options.hidden folder).filter
        (FileTree.isReached folder call.folder)).map fun location =>
          ⟨FileTree.pathTo folder call.folder location, location⟩
  | _ => []

/--
Whether files with a name are collected: the name is a text, a tag format matches it and no ignore
pattern does.
-/
def admits (tree : FileTree) (formats : List TagFormat) (ignored : List Pattern) (name : String) :
    Bool :=
  tree.isText name && (formats.any fun format => (format.name.captures? name).isSome) &&
    !ignored.any fun pattern => pattern.isMatch name

namespace Find

/-- Whether the name of a file is one with which files are collected. -/
def isAdmitted (tree : FileTree) (formats : List TagFormat) (ignored : List Pattern)
    (find : Find) : Bool :=
  find.location.getLast?.any (admits tree formats ignored)

/-- What is read from the name of a file. -/
def read? (formats : List TagFormat) (ignored : List Pattern) (find : Find) :
    Option TaggedFile := do
  let name ← find.location.getLast?
  (TaggedFile.ofName name find.path formats ignored).value

/--
What tells a file apart from others: where it is, or its path if that holds the character that ends
texts or if the file is too deep.
-/
def key (find : Find) : List Path.Component :=
  if find.path.text.toList.contains '\x00' then find.path.components
  else if FileTree.pathBytes find.location < FileTree.pathByteLimit then
    .root :: find.location.map .name
  else find.path.components

end Find

/-- The files that are collected among those that are found, each where it is found first. -/
def firsts (tree : FileTree) (formats : List TagFormat) (ignored : List Pattern)
    (finds : List Find) : List Find :=
  (finds.filter (Find.isAdmitted tree formats ignored)).eraseDupsBy fun find other =>
    find.key == other.key

namespace Collector

open Act

/-- Loads the tagged files of folders, one after the other, and gives how many each call added. -/
def loadFolders (tree : FileTree) (calls : List ScanCall) : Collecting (List Nat) :=
  calls.mapM fun call => loadFolder tree call.options call.folder

/-- The files that calls collect, in the order in which they are first reached. -/
def collected (tree : FileTree) (formats : List TagFormat) (ignored : List Pattern)
    (calls : List ScanCall) : List Find :=
  firsts tree formats ignored (calls.flatMap (ScanCall.finds tree))

/-- Whether a path is that of a file: it has the name of the file, and tells it apart. -/
structure Marks (tree : FileTree) (find : Find) : Prop where
  name_eq : find.path.fileName? = find.location.getLast?
  key_eq : keyOf tree find.path = find.key

/-- Whether a collector has loaded the files among some finds and no others. -/
structure HasLoaded (tree : FileTree) (formats : List TagFormat) (ignored : List Pattern)
    (finds : List Find) (collector : Collector) : Prop where
  formats_eq : collector.formats = formats
  ignored_eq : collector.ignored = ignored
  files_eq : collector.files.map some =
    (firsts tree formats ignored finds).map (Find.read? formats ignored)
  mem_seen_iff : ∀ key, key ∈ collector.seen ↔
    key ∈ (firsts tree formats ignored finds).map Find.key

variable {tree : FileTree} {formats : List TagFormat} {ignored : List Pattern}
  {collector : Collector} {finds more : List Find} {find : Find} {path : Path}
  {before calls : List ScanCall} {call : ScanCall}

/-! ### First finds -/

theorem firsts_concat_of_not (other : find.isAdmitted tree formats ignored = false) :
    firsts tree formats ignored (finds ++ [find]) = firsts tree formats ignored finds := by
  simp [firsts, other]

theorem firsts_concat_of_admitted (admitted : find.isAdmitted tree formats ignored = true) :
    firsts tree formats ignored (finds ++ [find]) =
      if find.key ∈ (firsts tree formats ignored finds).map Find.key then
        firsts tree formats ignored finds
      else firsts tree formats ignored finds ++ [find] := by
  have known : ((firsts tree formats ignored finds).any fun other => find.key == other.key) = true ↔
      find.key ∈ (firsts tree formats ignored finds).map Find.key := by
    rw [List.any_eq_true, List.mem_map]
    exact exists_congr fun other => and_congr_right' (beq_iff_eq.trans eq_comm)
  rw [firsts, List.filter_append, List.filter_cons_of_pos admitted, List.filter_nil,
    eraseDupsBy_concat, ← firsts]
  simp only [known]

/-- A file with a key that is known adds nothing, whether its name is admitted or not. -/
theorem firsts_concat_of_known
    (known : find.key ∈ (firsts tree formats ignored finds).map Find.key) :
    firsts tree formats ignored (finds ++ [find]) = firsts tree formats ignored finds := by
  cases admitted : find.isAdmitted tree formats ignored with
  | false => exact firsts_concat_of_not admitted
  | true => rw [firsts_concat_of_admitted admitted, if_pos known]

theorem map_key_firsts (tree : FileTree) (formats : List TagFormat) (ignored : List Pattern)
    (finds : List Find) :
    (firsts tree formats ignored finds).map Find.key =
      ((finds.filter (Find.isAdmitted tree formats ignored)).map Find.key).eraseDups :=
  map_eraseDupsBy Find.key _

theorem mem_of_mem_firsts (first : find ∈ firsts tree formats ignored finds) :
    find ∈ finds ∧ find.isAdmitted tree formats ignored = true :=
  List.mem_filter.1 ((sublist_eraseDupsBy _ _).subset first)

theorem prefix_firsts (finds more : List Find) :
    firsts tree formats ignored finds <+: firsts tree formats ignored (finds ++ more) := by
  induction more using List.reverseRecOn with
  | nil => rw [List.append_nil]
  | append_singleton more find ih =>
      refine ih.trans ?_
      rw [← List.append_assoc]
      cases admitted : find.isAdmitted tree formats ignored with
      | false => rw [firsts_concat_of_not admitted]
      | true =>
          rw [firsts_concat_of_admitted admitted]
          split
          · exact List.prefix_rfl
          · exact List.prefix_append _ _

/-- Finds that have been made before add nothing. -/
theorem firsts_append_of_subset (made : more ⊆ finds) :
    firsts tree formats ignored (finds ++ more) = firsts tree formats ignored finds := by
  induction more using List.reverseRecOn with
  | nil => rw [List.append_nil]
  | append_singleton more find ih =>
      have same := ih fun other present => made (List.mem_append_left _ present)
      rw [← List.append_assoc, ← same]
      cases admitted : find.isAdmitted tree formats ignored with
      | false => exact firsts_concat_of_not admitted
      | true =>
          apply firsts_concat_of_known
          rw [same, map_key_firsts, List.mem_eraseDups]
          exact List.mem_map_of_mem (List.mem_filter.2 ⟨made (by simp), admitted⟩)

/-! ### One file after another -/

/-- A name is read exactly if it is admitted. -/
theorem isSome_ofName (path : Path) {name : String} (text : tree.isText name = true) :
    (TaggedFile.ofName name path formats ignored).value.isSome =
      admits tree formats ignored name := by
  have found : (TaggedFile.findFormat? formats name).isSome =
      formats.any fun format => (format.name.captures? name).isSome := by
    rw [TaggedFile.findFormat?, Bool.eq_iff_iff, List.findSome?_isSome_iff, List.any_eq_true]
    simp
  rw [admits, text, Bool.true_and, ← found, TaggedFile.ofName]
  cases TaggedFile.findFormat? formats name with
  | none => rfl
  | some format =>
      obtain ⟨format, captures⟩ := format
      simp only
      cases ignored.any fun pattern => pattern.isMatch name <;> rfl

/-- What is collected is read. -/
theorem isSome_read? (admitted : find.isAdmitted tree formats ignored = true) :
    (find.read? formats ignored).isSome = true := by
  rw [Find.isAdmitted, Option.any_eq_true] at admitted
  rcases admitted with ⟨name, named, admitted⟩
  have text : tree.isText name = true := by
    simp only [admits, Bool.and_eq_true] at admitted
    exact admitted.1.1
  rw [Find.read?, named]
  exact (isSome_ofName find.path text).trans admitted

theorem location_of_read? {file : TaggedFile} (read : find.read? formats ignored = some file) :
    file.location = find.path := by
  rw [Find.read?, Option.bind_eq_bind, Option.bind_eq_some_iff] at read
  rcases read with ⟨name, -, read⟩
  exact location_of_ofName read

/-- A collector that loads a file has then loaded the file, too, whether it was added or not. -/
theorem HasLoaded.loadFile (holds : HasLoaded tree formats ignored finds collector)
    (marks : Marks tree find) :
    ∃ added after, (loadFile tree find.path).ends collector = (.ok added, after) ∧
      HasLoaded tree formats ignored (finds ++ [find]) after := by
  have idle (same : firsts tree formats ignored (finds ++ [find]) =
      firsts tree formats ignored finds) :
      HasLoaded tree formats ignored (finds ++ [find]) collector :=
    ⟨holds.formats_eq, holds.ignored_eq, by rw [same, holds.files_eq], by
      rw [same]
      exact holds.mem_seen_iff⟩
  unfold Collector.loadFile
  rw [marks.name_eq]
  cases named : find.location.getLast?.filter tree.isText with
  | none =>
      have other : find.isAdmitted tree formats ignored = false := by
        rw [Find.isAdmitted, Option.any_eq_false]
        intro name last
        have illegible : tree.isText name ≠ true := Option.filter_eq_none_iff.1 named name last
        rw [admits, Bool.eq_false_of_not_eq_true illegible, Bool.false_and, Bool.false_and]
      exact ⟨_, _, rfl, idle (firsts_concat_of_not other)⟩
  | some name =>
      rcases Option.filter_eq_some_iff.1 named with ⟨last, text⟩
      have admitted : find.isAdmitted tree formats ignored = admits tree formats ignored name := by
        rw [Find.isAdmitted, last, Option.any_some]
      have read : find.read? formats ignored =
          (TaggedFile.ofName name find.path formats ignored).value := by
        rw [Find.read?, last]
        rfl
      simp only
      rw [ends_bind, ends_get]
      simp only [marks.key_eq]
      cases reached : collector.seen.contains find.key with
      | true =>
          have known := (holds.mem_seen_iff find.key).1 (List.contains_iff_mem.1 reached)
          exact ⟨_, _, rfl, idle (firsts_concat_of_known known)⟩
      | false =>
          simp only [Bool.false_eq_true, if_false]
          rw [ends_bind, ends_logged, holds.formats_eq, holds.ignored_eq]
          rw [← isSome_ofName find.path text] at admitted
          cases taken : (TaggedFile.ofName name find.path formats ignored).value with
          | none =>
              rw [taken] at admitted
              exact ⟨_, _, rfl, idle (firsts_concat_of_not admitted)⟩
          | some file =>
              rw [taken] at admitted read
              have fresh : find.key ∉ (firsts tree formats ignored finds).map Find.key := by
                rw [← holds.mem_seen_iff, ← List.contains_iff_mem, reached]
                exact Bool.false_ne_true
              have grown : firsts tree formats ignored (finds ++ [find]) =
                  firsts tree formats ignored finds ++ [find] := by
                rw [firsts_concat_of_admitted admitted, if_neg fresh]
              refine ⟨_, _, rfl, rfl, rfl, ?_, fun key => ?_⟩
              · rw [grown, List.map_append, List.map_append, holds.files_eq, List.map_singleton,
                  List.map_singleton, read]
              · rw [grown, List.map_append, List.map_singleton, List.mem_cons, List.mem_append,
                  List.mem_singleton, holds.mem_seen_iff, or_comm]

theorem HasLoaded.loadAll (holds : HasLoaded tree formats ignored finds collector)
    {reached : List (Except FileTree.Unread Path)}
    (listed : reached.filterMap Except.toOption = more.map Find.path)
    (marks : ∀ find ∈ more, Marks tree find) :
    ∃ after, (forIn reached PUnit.unit fun item _ => do
        loadReached tree item
        pure (ForInStep.yield PUnit.unit)).ends collector = (.ok PUnit.unit, after) ∧
      HasLoaded tree formats ignored (finds ++ more) after := by
  induction reached generalizing finds more collector with
  | nil =>
      have none : more = [] := List.map_eq_nil_iff.1 listed.symm
      exact ⟨collector, rfl, by rwa [none, List.append_nil]⟩
  | cons item reached ih =>
      cases item with
      | error unread =>
          rcases ih holds listed marks with ⟨after, rest, holds⟩
          refine ⟨after, ?_, holds⟩
          rw [List.forIn_cons, ends_bind, ends_bind, loadReached, ends_tell]
          exact rest
      | ok path =>
          cases more with
          | nil => cases listed
          | cons find more =>
              have both : path :: reached.filterMap Except.toOption =
                  find.path :: more.map Find.path := listed
              rcases List.cons.inj both with ⟨rfl, rest⟩
              rw [List.forall_mem_cons] at marks
              rcases holds.loadFile marks.1 with ⟨added, between, first, holds⟩
              rcases ih holds rest marks.2 with ⟨after, others, holds⟩
              refine ⟨after, ?_, by rwa [List.append_cons]⟩
              rw [List.forIn_cons, ends_bind, ends_bind, loadReached, ends_bind, first]
              exact others

/-! ### One call after another -/

theorem finds_eq {folder : Location}
    (found : tree.lookUp true call.folder = .ok (folder, .folder)) :
    call.finds tree =
      ((tree.locationsBelow call.options.recursive call.options.hidden folder).filter
        (FileTree.isReached folder call.folder)).map fun location =>
          ⟨FileTree.pathTo folder call.folder location, location⟩ := by
  rw [ScanCall.finds, found]

/-- What a call finds is in a file below its folder. -/
theorem exists_of_mem_finds (found : find ∈ call.finds tree) :
    ∃ folder, tree.lookUp true call.folder = .ok (folder, .folder) ∧
      find.location ∈
        tree.locationsBelow call.options.recursive call.options.hidden folder ∧
      find.path = FileTree.pathTo folder call.folder find.location := by
  unfold ScanCall.finds at found
  split at found
  · rename_i folder looked
    rcases List.mem_map.1 found with ⟨location, among, rfl⟩
    exact ⟨folder, looked, (List.mem_filter.1 among).1, rfl⟩
  · cases found

/-- What a call finds is at the location that is found with it, unless the path is too long. -/
theorem canonical?_of_mem_finds (proper : tree.Proper) (found : find ∈ call.finds tree)
    (usable : FileTree.textFault? find.path = none) :
    tree.canonical? find.path = some find.location := by
  rcases exists_of_mem_finds found with ⟨folder, looked, below, path_eq⟩
  rw [path_eq] at usable ⊢
  exact FileTree.canonical?_pathTo proper looked below usable

theorem marks_of_mem_finds (proper : tree.Proper) (found : find ∈ call.finds tree) :
    Marks tree find where
  name_eq := by
    rcases exists_of_mem_finds found with ⟨folder, looked, below, path_eq⟩
    rw [path_eq]
    exact FileTree.fileName?_pathTo proper looked below
  key_eq := by
    rcases exists_of_mem_finds found with ⟨folder, looked, below, path_eq⟩
    rw [keyOf, Find.key, path_eq, FileTree.resolved?_pathTo proper looked below]
    by_cases broken : (FileTree.pathTo folder call.folder find.location).text.toList.contains '\x00'
    · rw [if_pos broken, if_pos broken]
    · rw [if_neg broken, if_neg broken]
      by_cases short : FileTree.pathBytes find.location < FileTree.pathByteLimit
      · rw [if_pos short, if_pos short]
      · rw [if_neg short, if_neg short]

theorem lookUp_of_isFolder (lies : tree.isFolder path = true) :
    ∃ location, tree.lookUp true path = .ok (location, .folder) := by
  unfold FileTree.isFolder FileTree.nodeAt? at lies
  cases looked : tree.lookUp true path with
  | error fault => simp [looked, Except.toOption] at lies
  | ok place =>
      obtain ⟨location, node⟩ := place
      cases node with
      | folder => exact ⟨location, rfl⟩
      | file content => simp [looked, Except.toOption] at lies
      | link target => simp [looked, Except.toOption] at lies

theorem HasLoaded.loadFolder (proper : tree.Proper) (legible : tree.LegibleDots)
    (lies : tree.isFolder call.folder = true)
    (holds : HasLoaded tree formats ignored finds collector) :
    ∃ after, (loadFolder tree call.options call.folder).ends collector =
        (.ok (after.files.length - collector.files.length), after) ∧
      HasLoaded tree formats ignored (finds ++ call.finds tree) after := by
  rcases lookUp_of_isFolder lies with ⟨location, found⟩
  have filled := FileTree.isEmpty_of_textFault?
    (FileTree.textFault?_of_locate (FileTree.lookUp_eq_ok_iff.1 found).1)
  have listed := FileTree.filesBelow_eq proper legible filled call.options.recursive
    call.options.hidden location
  have paths : (tree.filesBelow call.options.recursive call.options.hidden location
      call.folder).filterMap Except.toOption = (call.finds tree).map Find.path := by
    rw [listed, finds_eq found, List.map_map]
    rfl
  rcases holds.loadAll paths (fun find made => marks_of_mem_finds proper made) with
    ⟨after, ended, holds⟩
  refine ⟨after, ?_, holds⟩
  unfold Collector.loadFolder
  simp only [found, Except.toOption]
  rw [ends_bind, ends_get]
  simp only
  rw [ends_bind, ended]
  rfl

/-- How many files each of some calls adds if it is made after others. -/
def additions (tree : FileTree) (formats : List TagFormat) (ignored : List Pattern) :
    (before calls : List ScanCall) → List Nat
  | _, [] => []
  | before, call :: calls =>
      ((collected tree formats ignored (before ++ [call])).length -
          (collected tree formats ignored before).length) ::
        additions tree formats ignored (before ++ [call]) calls

/-- Whether a collector has collected the files of some calls and no others. -/
def HasCollected (tree : FileTree) (formats : List TagFormat) (ignored : List Pattern)
    (calls : List ScanCall) (collector : Collector) : Prop :=
  HasLoaded tree formats ignored (calls.flatMap (ScanCall.finds tree)) collector

theorem HasCollected.length_files (holds : HasCollected tree formats ignored calls collector) :
    collector.files.length = (collected tree formats ignored calls).length := by
  have counted := congrArg List.length holds.files_eq
  rw [List.length_map, List.length_map] at counted
  exact counted

theorem HasCollected.loadFolders (proper : tree.Proper) (legible : tree.LegibleDots)
    (folders : ∀ call ∈ calls, tree.isFolder call.folder = true)
    (holds : HasCollected tree formats ignored before collector) :
    ∃ after, (loadFolders tree calls).ends collector =
        (.ok (additions tree formats ignored before calls), after) ∧
      HasCollected tree formats ignored (before ++ calls) after := by
  induction calls generalizing before collector with
  | nil => exact ⟨collector, rfl, by rwa [List.append_nil]⟩
  | cons call calls ih =>
      rcases HasLoaded.loadFolder proper legible (folders call (by simp)) holds with
        ⟨between, first, loaded⟩
      have next : HasCollected tree formats ignored (before ++ [call]) between := by
        simpa [HasCollected] using loaded
      rcases ih (fun other present => folders other (by simp [present])) next with
        ⟨after, rest, last⟩
      refine ⟨after, ?_, by rwa [List.append_cons]⟩
      rw [Collector.loadFolders, List.mapM_cons, ends_bind, first]
      simp only
      rw [ends_bind, ← Collector.loadFolders, rest, next.length_files, holds.length_files]
      rfl

/-! ### What has been collected -/

/-- A collector that has collected nothing. -/
def fresh (formats : List TagFormat) (ignored : List Pattern) : Collector :=
  ⟨formats, ignored, [], []⟩

theorem hasCollected_fresh (tree : FileTree) (formats : List TagFormat) (ignored : List Pattern) :
    HasCollected tree formats ignored [] (fresh formats ignored) :=
  ⟨rfl, rfl, rfl, fun _ => Iff.rfl⟩

theorem exists_of_mem_collected (first : find ∈ collected tree formats ignored calls) :
    ∃ call ∈ calls, find ∈ call.finds tree :=
  List.mem_flatMap.1 (mem_of_mem_firsts first).1

/-- What tells the loaded files apart comes in the order of what has been collected. -/
theorem HasCollected.map_keyOf (proper : tree.Proper)
    (holds : HasCollected tree formats ignored calls collector) :
    collector.files.map (fun file => keyOf tree file.location) =
      (collected tree formats ignored calls).map Find.key := by
  have told : ∀ find ∈ collected tree formats ignored calls,
      (find.read? formats ignored).map (fun file => keyOf tree file.location) = some find.key := by
    intro find first
    rcases exists_of_mem_collected first with ⟨call, -, made⟩
    rcases Option.isSome_iff_exists.1 (isSome_read? (mem_of_mem_firsts first).2) with ⟨file, read⟩
    rw [read, Option.map_some, location_of_read? read, (marks_of_mem_finds proper made).key_eq]
  apply List.map_injective_iff.2 (Option.some_injective _)
  calc (collector.files.map fun file => keyOf tree file.location).map some
      = (collector.files.map some).map (Option.map fun file => keyOf tree file.location) := by
        rw [List.map_map, List.map_map]
        rfl
    _ = (collected tree formats ignored calls).map (some ∘ Find.key) := by
        rw [holds.files_eq, List.map_map]
        exact List.map_congr_left told
    _ = ((collected tree formats ignored calls).map Find.key).map some := by
        rw [List.map_map]

theorem HasCollected.pairwise_keyOf (proper : tree.Proper)
    (holds : HasCollected tree formats ignored calls collector) :
    collector.files.Pairwise fun file other =>
      keyOf tree file.location ≠ keyOf tree other.location := by
  rw [← List.pairwise_map, holds.map_keyOf proper, collected, map_key_firsts]
  exact nodup_eraseDups _

theorem prefix_collected (before more : List ScanCall) :
    collected tree formats ignored before <+: collected tree formats ignored (before ++ more) := by
  rw [collected, collected, List.flatMap_append]
  exact prefix_firsts _ _

/-- A call that is made again adds nothing. -/
theorem collected_concat_of_mem (again : call ∈ before) :
    collected tree formats ignored (before ++ [call]) = collected tree formats ignored before := by
  rw [collected, collected, List.flatMap_append, List.flatMap_singleton]
  exact firsts_append_of_subset fun find made => List.mem_flatMap.2 ⟨call, again, made⟩

/--
What calls on a collector come to: the files in the order in which they are first reached, and how
many each call added.
-/
structure Exact (tree : FileTree) (formats : List TagFormat) (ignored : List Pattern)
    (calls : List ScanCall) (counts : List Nat) (collector : Collector) : Prop where
  /-- The files come in the order of the calls and, below a folder, of their locations. -/
  order : collector.files.map some =
    (collected tree formats ignored calls).map (Find.read? formats ignored)
  /-- A path that can be used leads to the file that is collected. -/
  places : ∀ find ∈ collected tree formats ignored calls, FileTree.textFault? find.path = none →
    tree.canonical? find.path = some find.location
  /-- No file is collected at two paths that lead to it. -/
  single : collector.files.Pairwise fun file other => ∀ location,
    tree.resolved? file.location = some location → tree.resolved? other.location ≠ some location
  /-- A call adds files behind those that are there, and gives how many it adds. -/
  growth : ∀ before call later, calls = before ++ call :: later →
    collected tree formats ignored before <+: collected tree formats ignored (before ++ [call]) ∧
      counts[before.length]? = some ((collected tree formats ignored (before ++ [call])).length -
        (collected tree formats ignored before).length)
  /-- A call that is made again adds nothing. -/
  again : ∀ before call later, calls = before ++ call :: later → call ∈ before →
    counts[before.length]? = some 0

theorem getElem?_additions (front before later : List ScanCall) (call : ScanCall) :
    (additions tree formats ignored before (front ++ call :: later))[front.length]? =
      some ((collected tree formats ignored (before ++ front ++ [call])).length -
        (collected tree formats ignored (before ++ front)).length) := by
  induction front generalizing before with
  | nil => simp [additions]
  | cons first front ih =>
      rw [List.cons_append, additions, List.length_cons, List.getElem?_cons_succ, ih]
      simp

/-- Files in folders, among them a hidden one and one whose name is no text, and some links. -/
def cabinet : FileTree :=
  ⟨[(["i"], .folder), (["i", "b"], .folder), (["i", "b", "c"], .file "z"),
    (["i", ".h"], .file "y"), (["i", "a"], .file "x"), (["i", "e"], .file "w"),
    (["i", "k"], .link ⟨"a"⟩), (["l"], .link ⟨"i"⟩)], [], ["e"]⟩

/-- A folder, the same one through a link with what is in it, and a folder inside. -/
def visits : List ScanCall :=
  [⟨⟨false, true⟩, ⟨"i"⟩⟩, ⟨⟨true, false⟩, ⟨"l"⟩⟩, ⟨⟨true, true⟩, ⟨"i/b/"⟩⟩]

theorem proper_cabinet : cabinet.Proper := by
  refine FileTree.proper_of_entries (by decide) (by decide) ?_
  simp only [cabinet, List.forall_mem_cons]
  exact ⟨rfl, rfl, rfl, rfl, rfl, rfl, rfl, rfl, by simp⟩

/-- Whatever its name is, a file is collected. -/
def anyName : List TagFormat :=
  [⟨⟨"", .empty⟩, ⟨"", .empty⟩⟩]

open FileTree

/-- A folder with a file in it and another one in a folder inside. -/
def drawer : FileTree :=
  ⟨[(["i"], .folder), (["i", "a"], .file "x"), (["i", "d"], .folder),
    (["i", "d", "b"], .file "y")], [], []⟩

/-- The path of the folder, with slashes behind it. -/
def slashed (count : Nat) : Path :=
  ⟨String.ofList ('i' :: List.replicate count '/')⟩

theorem proper_drawer : drawer.Proper := by
  refine proper_of_entries (by decide) (by decide) ?_
  simp only [drawer, List.forall_mem_cons]
  exact ⟨rfl, rfl, rfl, rfl, by simp⟩

theorem legibleDots_drawer : drawer.LegibleDots := by
  unfold LegibleDots
  decide

theorem locationsBelow_drawer :
    drawer.locationsBelow true false ["i"] = [["i"] ++ ["a"], ["i"] ++ ["d", "b"]] := by
  cbv

section Slashed

variable {count : Nat}

theorem isEmpty_slashed : (slashed count).isEmpty = false := by
  simp [slashed, Path.isEmpty]

theorem isAbsolute_slashed : (slashed count).isAbsolute = false := by
  simp [slashed, Path.isAbsolute]

theorem names_slashed : names (slashed count) = ["i"] := by
  have segments : (slashed count).segments = "i" :: List.replicate count "" := by
    induction count with
    | zero => exact Path.segments_of_slashless (by decide)
    | succ count ih =>
        rw [slashed, List.replicate_succ', ← List.cons_append, Path.segments_append_slash,
          ← slashed, ih, Path.segments_ofList_nil, List.cons_append, List.replicate_succ']
  rw [names, segments]
  simp

theorem utf8ByteSize_slashed : (slashed count).text.utf8ByteSize = count + 1 := by
  rw [slashed, String.utf8ByteSize_ofList]
  induction count with
  | zero => rfl
  | succ count ih =>
      rw [List.replicate_succ', ← List.cons_append, String.utf8Len_append, ih]
      rfl

theorem textFault?_slashed (short : count + 1 < pathByteLimit) :
    textFault? (slashed count) = none := by
  rw [textFault?_eq_none_iff, utf8ByteSize_slashed]
  exact ⟨by simp [slashed], isEmpty_slashed, short⟩

theorem textFault?_slashed_join {name : String} (long : pathByteLimit ≤ count + 2)
    (proper : IsName name) : textFault? ((slashed count).join ⟨name⟩) ≠ none := by
  intro usable
  have short := (textFault?_eq_none_iff.1 usable).2.2
  have filled : 0 < (Path.mk name).text.utf8ByteSize := by
    rw [Nat.pos_iff_ne_zero, Ne, String.utf8ByteSize_eq_zero_iff]
    exact proper.filled
  rw [Path.join_of_relative proper.isAbsolute isEmpty_slashed, String.utf8ByteSize_append,
    String.utf8ByteSize_append, utf8ByteSize_slashed] at short
  omega

theorem lookUp_slashed (short : count + 1 < pathByteLimit) :
    drawer.lookUp true (slashed count) = .ok (["i"], .folder) := by
  have shape : steps (slashed count) = ["i"] ∨ steps (slashed count) = ["i", "."] := by
    rw [steps, names_slashed]
    split
    · exact .inr rfl
    · exact .inl rfl
  rw [lookUp_eq_ok_iff, locate, textFault?_slashed short, origin, isAbsolute_slashed]
  refine ⟨?_, rfl⟩
  rcases shape with shape | shape
  · rw [shape]
    cbv
  · rw [shape]
    cbv

/-- There is no room behind the slashes for the name of the folder inside. -/
theorem finds_slashed (short : count + 1 < pathByteLimit) (long : pathByteLimit ≤ count + 2) :
    ScanCall.finds drawer ⟨⟨true, false⟩, slashed count⟩ =
      [⟨(slashed count).join ⟨"a"⟩, ["i", "a"]⟩] := by
  have near : isReached ["i"] (slashed count) (["i"] ++ ["a"]) = true := by
    rw [isReached_append (by simp), Option.isNone_iff_eq_none]
    exact textFault?_slashed short
  have far : isReached ["i"] (slashed count) (["i"] ++ ["d", "b"]) ≠ true := by
    rw [isReached_append (by simp), ne_eq, Option.isNone_iff_eq_none]
    exact textFault?_slashed_join long (by decide)
  rw [ScanCall.finds, lookUp_slashed short]
  simp only
  rw [locationsBelow_drawer, List.filter_cons_of_pos near, List.filter_cons_of_neg far,
    List.filter_nil, List.map_singleton, pathTo_append]
  rfl

theorem isFolder_slashed (short : count + 1 < pathByteLimit) :
    drawer.isFolder (slashed count) = true := by
  rw [isFolder, nodeAt?, lookUp_slashed short]
  rfl

theorem collected_slashed (short : count + 1 < pathByteLimit) (long : pathByteLimit ≤ count + 2) :
    collected drawer anyName [] [⟨⟨true, false⟩, slashed count⟩] =
      [⟨(slashed count).join ⟨"a"⟩, ["i", "a"]⟩] := by
  have admitted : Find.isAdmitted drawer anyName []
      ⟨(slashed count).join ⟨"a"⟩, ["i", "a"]⟩ = true := by
    cbv
  rw [collected, List.flatMap_singleton, finds_slashed short long, firsts,
    List.filter_cons_of_pos admitted, List.filter_nil]
  rfl

theorem additions_slashed (short : count + 1 < pathByteLimit) (long : pathByteLimit ≤ count + 2) :
    additions drawer anyName [] [] [⟨⟨true, false⟩, slashed count⟩] = [1] := by
  rw [additions, List.nil_append, collected_slashed short long]
  rfl

end Slashed

end Collector

end TagOrganizer
