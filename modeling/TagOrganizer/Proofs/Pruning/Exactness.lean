import Mathlib
import TagOrganizer.Proofs.FileTree.Folders
import TagOrganizer.Proofs.FileTree.Shed
import TagOrganizer.Proofs.Pruning

/-!
# What pruning removes

A folder goes if there is nothing but folders below it. Whether that is so is seen from the folder
alone when its turn comes, because the folders inside it have been dealt with before
(`HasPruned.barren_of_isHollow`, `HasPruned.isHollow_of_barren`). So pruning removes exactly these
folders, and nothing is left for a second run; a trial run tells of the folders that have no entries
from the beginning (`exact_of_run`). This is so only if the path does not end in a link: below a
link folders are missed (`not_cleared_attic`).
-/

namespace TagOrganizer

namespace FileTree

/-- Whether there is a folder at a location, and nothing but folders below it. -/
structure Barren (tree : FileTree) (location : Location) : Prop where
  folder : tree.find? location = some .folder
  below : ∀ along node, tree.find? (location ++ along) = some node → node = .folder

/-- Whether there is a folder without entries at a location. -/
structure Vacant (tree : FileTree) (location : Location) : Prop where
  folder : tree.find? location = some .folder
  missing : ∀ name, tree.find? (location ++ [name]) = none

/-- Whether there is a folder without entries at a location, with a path that can be used. -/
structure SeenVacant (tree : FileTree) (folder : Location) (path : Path) (location : Location) :
    Prop where
  vacant : tree.Vacant location
  usable : textFault? (pathTo folder path location) = none

/--
Whether some paths lead to the chosen folders below a folder, to each of them once, and to those
inside a folder before it.
-/
def ListsBelow (tree : FileTree) (folder : Location) (path : Path) (chosen : Location → Prop)
    (paths : List Path) : Prop :=
  ∃ locations : List Location, paths = locations.map (pathTo folder path) ∧
    (∀ location ∈ locations, tree.canonical? (pathTo folder path location) = some location) ∧
    (∀ location, location ∈ locations ↔ Below folder location ∧ chosen location) ∧
    locations.Pairwise fun earlier later => ¬earlier <+: later

/-- Whether a tree is left when the barren folders below a folder are taken away. -/
structure Cleared (before : FileTree) (folder : Location) (after : FileTree) : Prop where
  here : after.here = before.here
  gone : ∀ location, Below folder location → before.Barren location →
    after.find? location = none
  kept : ∀ location, ¬(Below folder location ∧ before.Barren location) →
    after.find? location = before.find? location

end FileTree

/-- Whether a report has no message that something failed. -/
def Report.Untroubled (report : Report) : Prop :=
  ∀ message ∈ report.messages, message.kind ≠ .error

namespace Pruning

open FileTree Operation

variable {trial : Bool} {tree now after : FileTree} {folder location : Location} {path : Path}
  {tally next : Tally} {front rest locations : List Location} {paths : List Path}
  {chosen : Location → Prop} {reported : List (Except Unread Path)}

/-! ### What is listed -/

/-- Whether some paths are those of the chosen ones among some locations, in their order. -/
structure Lists (folder : Location) (path : Path) (chosen : Location → Prop)
    (among locations : List Location) (paths : List Path) : Prop where
  paths_eq : paths = locations.map (pathTo folder path)
  sublist : locations.Sublist among
  mem_iff : ∀ location ∈ among, location ∈ locations ↔ chosen location

namespace Lists

theorem nil (folder : Location) (path : Path) (chosen : Location → Prop) :
    Lists folder path chosen [] [] [] :=
  ⟨rfl, .slnil, by simp⟩

theorem skip (lists : Lists folder path chosen front locations paths) (fresh : location ∉ front)
    (other : ¬chosen location) :
    Lists folder path chosen (front ++ [location]) locations paths where
  paths_eq := lists.paths_eq
  sublist := lists.sublist.trans (List.sublist_append_left front [location])
  mem_iff := by
    intro place among
    rcases List.mem_append.1 among with before | last
    · exact lists.mem_iff place before
    · rw [List.mem_singleton.1 last]
      exact iff_of_false (fun listed => fresh (lists.sublist.subset listed)) other

theorem add (lists : Lists folder path chosen front locations paths) (fresh : location ∉ front)
    (fits : chosen location) :
    Lists folder path chosen (front ++ [location]) (locations ++ [location])
      (paths ++ [pathTo folder path location]) where
  paths_eq := by rw [lists.paths_eq, List.map_append, List.map_singleton]
  sublist := lists.sublist.append (List.Sublist.refl [location])
  mem_iff := by
    intro place among
    rcases List.mem_append.1 among with before | last
    · have different : place ≠ location := by
        rintro rfl
        exact fresh before
      simpa [different] using lists.mem_iff place before
    · rw [List.mem_singleton.1 last]
      exact iff_of_true (by simp) fits

/-- What is chosen of the folders that are reached is chosen of all, if no other one is. -/
theorem under (lists : Lists folder path chosen (tree.foldersReached folder path) locations paths)
    (reached : ∀ location ∈ tree.foldersUnder folder, chosen location →
      isReached folder path location = true) :
    Lists folder path chosen (tree.foldersUnder folder) locations paths where
  paths_eq := lists.paths_eq
  sublist := lists.sublist.trans List.filter_sublist
  mem_iff := by
    intro location among
    constructor
    · exact fun listed => (lists.mem_iff location (lists.sublist.subset listed)).1 listed
    · intro fits
      have present := List.mem_filter.2 ⟨among, reached location among fits⟩
      exact (lists.mem_iff location present).2 fits

/-- In the end the chosen ones of all folders below a folder are listed. -/
theorem mem_iff_below
    (lists : Lists folder path chosen (tree.foldersUnder folder) locations paths)
    (proper : tree.Proper)
    (folders : ∀ location, chosen location → tree.find? location = some .folder)
    (location : Location) : location ∈ locations ↔ Below folder location ∧ chosen location := by
  constructor
  · intro listed
    have among := lists.sublist.subset listed
    exact ⟨((mem_foldersUnder_iff proper).1 among).1, (lists.mem_iff location among).1 listed⟩
  · rintro ⟨below, fits⟩
    have among := (mem_foldersUnder_iff proper).2 ⟨below, folders location fits⟩
    exact (lists.mem_iff location among).2 fits

theorem listsBelow (lists : Lists folder path chosen (tree.foldersUnder folder) locations paths)
    (proper : tree.Proper) (found : tree.lookUp true path = .ok (folder, .folder))
    (folders : ∀ location, chosen location → tree.find? location = some .folder)
    (usable : ∀ location ∈ locations, textFault? (pathTo folder path location) = none) :
    ListsBelow tree folder path chosen paths := by
  refine ⟨locations, lists.paths_eq, ?_, lists.mem_iff_below proper folders, ?_⟩
  · intro location listed
    rcases (mem_foldersUnder_iff proper).1 (lists.sublist.subset listed) with ⟨below, there⟩
    rw [canonical?, lookUp_pathTo proper found below there (usable location listed)]
    rfl
  · exact (pairwise_foldersUnder proper folder).sublist lists.sublist

end Lists

theorem pairwise_foldersReached (proper : tree.Proper) (folder : Location) (path : Path) :
    (tree.foldersReached folder path).Pairwise fun earlier later => ¬earlier <+: later :=
  (pairwise_foldersUnder proper folder).filter _

/-- What is reached is a folder below, and has not been reached before. -/
theorem lies_of_whole (proper : tree.Proper)
    (whole : tree.foldersReached folder path = front ++ location :: rest) :
    (Below folder location ∧ tree.find? location = some .folder) ∧ location ∉ front := by
  have among : location ∈ tree.foldersReached folder path := by simp [whole]
  refine ⟨(mem_foldersUnder_iff proper).1 (List.mem_of_mem_filter among), fun before => ?_⟩
  have apart := pairwise_foldersReached proper folder path
  rw [whole, List.pairwise_append] at apart
  exact apart.2.2 location before location (by simp) (List.prefix_refl location)

theorem isHollow_eq_ok_iff {hollow : Bool} :
    isHollow tree path = .ok hollow ↔
      ∃ location, tree.lookUp true path = .ok (location, .folder) ∧
        hollow = tree.isHollow location := by
  unfold isHollow
  rcases looked : tree.lookUp true path with fault | ⟨location, node⟩
  · simp [bind, Except.bind]
  · cases node with
    | folder => simp [bind, Except.bind, pure, Except.pure, eq_comm]
    | file content => simp [bind, Except.bind, throw, throwThe, MonadExceptOf.throw]
    | link target => simp [bind, Except.bind, throw, throwThe, MonadExceptOf.throw]

/-- What is read at the path of a folder that was reported is whether that folder has no entries. -/
theorem isHollow_of_read (proper : tree.Proper) (sheds : Sheds tree now)
    (found : tree.lookUp true path = .ok (folder, .folder)) (below : Below folder location)
    (there : tree.find? location = some .folder) {hollow : Bool}
    (read : isHollow now (pathTo folder path location) = .ok hollow) :
    textFault? (pathTo folder path location) = none ∧ hollow = now.isHollow location := by
  rcases isHollow_eq_ok_iff.1 read with ⟨place, looked, rfl⟩
  have usable := textFault?_of_locate (lookUp_eq_ok_iff.1 looked).1
  have leads := lookUp_pathTo proper found below there usable
  rw [sheds.lookUp looked, Except.ok.injEq, Prod.mk.injEq] at leads
  exact ⟨usable, by rw [leads.1]⟩

/--
What holds with nothing done holds in the end, if it is kept when a folder is pruned and when a
folder cannot be read.
-/
theorem ensures_pruneAll
    (listed : reported.filterMap Except.toOption = locations.map (pathTo folder path))
    (holds : List Location → Tally → FileTree → Prop)
    (further : ∀ front location rest tally now, locations = front ++ location :: rest →
      holds front tally now →
        (pruneFolder trial tally (pathTo folder path location)).Ensures now fun result after =>
          ∃ next, result = .ok next ∧ holds (front ++ [location]) next after)
    (unread : ∀ front tally now, holds front tally now →
      holds front { tally with failures := tally.failures + 1 } now)
    (begun : holds [] ⟨[], 0⟩ tree) :
    (pruneAll trial reported).Ensures tree fun result after =>
      ∃ last, result = .ok last ∧ holds locations last after := by
  -- Among the items that have been dealt with are the paths of the locations at the front.
  refine (ensures_foldlM_front (fun items (tally : Tally) now => ∃ front rest,
    locations = front ++ rest ∧ items.filterMap Except.toOption = front.map (pathTo folder path) ∧
      holds front tally now) ?_ ⟨[], locations, rfl, rfl, begun⟩).mono ?_
  · rintro items item others tally now rfl ⟨front, rest, rfl, read, holding⟩
    rw [List.filterMap_append, List.map_append, read, List.append_cancel_left_eq] at listed
    cases item with
    | error fault =>
        refine ensures_bind (ensures_tell (ensures_pure ⟨_, rfl, front, rest, rfl, ?_, ?_⟩))
        · rw [List.filterMap_append, read]
          exact List.append_nil _
        · exact unread front tally now holding
    | ok place =>
        cases rest with
        | nil => cases listed
        | cons location rest =>
            have both : place :: others.filterMap Except.toOption =
                pathTo folder path location :: rest.map (pathTo folder path) := listed
            rcases List.cons.inj both with ⟨rfl, -⟩
            apply (further front location rest tally now rfl holding).mono
            rintro result after ⟨next, rfl, holding⟩
            refine ⟨next, rfl, front ++ [location], rest, by simp, ?_, holding⟩
            rw [List.filterMap_append, read, List.map_append]
            rfl
  · rintro result after ⟨last, rfl, front, rest, rfl, read, holding⟩
    rw [read, List.map_append, List.self_eq_append_right, List.map_eq_nil_iff] at listed
    rw [listed, List.append_nil]
    exact ⟨last, rfl, holding⟩

/-! ### Runs that remove nothing -/

/--
Pruning the next folder leaves the tree alone on a trial, or if no folder without entries is found.
A folder without entries is listed if its path can be used.
-/
theorem Lists.still (lists : Lists folder path (SeenVacant tree folder path) front locations
      tally.removed) (proper : tree.Proper)
    (found : tree.lookUp true path = .ok (folder, .folder))
    (whole : tree.foldersReached folder path = front ++ location :: rest)
    (still : trial = true ∨ tree.isHollow location = false)
    (pruned : Pruned trial tree tally (pathTo folder path location) next after) :
    after = tree ∧ ∃ locations, Lists folder path (SeenVacant tree folder path)
      (front ++ [location]) locations next.removed := by
  rcases lies_of_whole proper whole with ⟨⟨below, there⟩, fresh⟩
  have reading {hollow : Bool} (read : isHollow tree (pathTo folder path location) = .ok hollow) :=
    isHollow_of_read proper (Sheds.refl tree) found below there read
  have removing (real : trial = false)
      (hollow : isHollow tree (pathTo folder path location) = .ok true) : False := by
    rw [real, ← (reading hollow).2] at still
    simp at still
  cases pruned with
  | unread trouble =>
      refine ⟨rfl, locations, lists.skip fresh fun seen => ?_⟩
      have leads := lookUp_pathTo proper found below there seen.usable
      rw [isHollow_eq_ok_iff.2 ⟨location, leads, rfl⟩] at trouble
      cases trouble
  | occupied filled =>
      refine ⟨rfl, locations, lists.skip fresh fun seen => ?_⟩
      have hollow := proper.isHollow_iff.2 seen.vacant.missing
      rw [← (reading filled).2] at hollow
      cases hollow
  | listed pretended hollow =>
      have vacant : tree.Vacant location :=
        ⟨there, proper.isHollow_iff.1 (reading hollow).2.symm⟩
      exact ⟨rfl, _, lists.add fresh ⟨vacant, (reading hollow).1⟩⟩
  | removed real hollow done => exact (removing real hollow).elim
  | stuck real hollow trouble => exact (removing real hollow).elim

/-- A trial run, or one that finds no folder without entries, leaves the tree alone. -/
theorem ensures_pruneAll_still (proper : tree.Proper)
    (found : tree.lookUp true path = .ok (folder, .folder))
    (listed : reported.filterMap Except.toOption =
      (tree.foldersReached folder path).map (pathTo folder path))
    (still : trial = true ∨ ∀ location ∈ tree.foldersUnder folder, tree.isHollow location = false) :
    (pruneAll trial reported).Ensures tree fun result after => ∃ last, result = .ok last ∧
      after = tree ∧ ∃ locations, Lists folder path (SeenVacant tree folder path)
        (tree.foldersUnder folder) locations last.removed := by
  refine (ensures_pruneAll listed (fun front tally now => now = tree ∧
    ∃ locations, Lists folder path (SeenVacant tree folder path) front locations tally.removed)
    ?_ (fun front tally now holds => holds) ⟨rfl, [], Lists.nil folder path _⟩).mono ?_
  · rintro front location rest tally now whole ⟨rfl, locations, lists⟩
    have among : location ∈ now.foldersReached folder path := by simp [whole]
    apply (ensures_pruneFolder trial now tally (pathTo folder path location)).mono
    rintro result after ⟨next, rfl, pruned⟩
    exact ⟨next, rfl, lists.still proper found whole (still.imp_right fun filled =>
      filled location (List.mem_of_mem_filter among)) pruned⟩
  · rintro result after ⟨last, rfl, rfl, locations, lists⟩
    refine ⟨last, rfl, rfl, locations, lists.under fun location among seen => ?_⟩
    rcases (mem_foldersUnder_iff proper).1 among with ⟨below, there⟩
    have filled := isEmpty_of_textFault? (textFault?_of_locate (lookUp_eq_ok_iff.1 found).1)
    exact isReached_of_usable proper filled below there seen.usable

/-! ### Runs that remove folders -/

/--
What holds as long as there has been no trouble: the barren folders among those that have been dealt
with are listed and gone, and everything else is as it was.
-/
structure HasPruned (tree : FileTree) (folder : Location) (path : Path)
    (front locations : List Location) (tally : Tally) (now : FileTree) : Prop where
  lists : Lists folder path tree.Barren front locations tally.removed
  usable : ∀ location ∈ front, textFault? (pathTo folder path location) = none
  proper : now.Proper
  here : now.here = tree.here
  gone : ∀ location ∈ locations, now.find? location = none
  kept : ∀ location, location ∉ locations → now.find? location = tree.find? location

namespace HasPruned

theorem barren (holds : HasPruned tree folder path front locations tally now)
    (listed : location ∈ locations) : tree.Barren location :=
  (holds.lists.mem_iff location (holds.lists.sublist.subset listed)).1 listed

theorem sheds (holds : HasPruned tree folder path front locations tally now) : Sheds tree now where
  here := holds.here
  kept := by
    intro location node found
    rw [← holds.kept location]
    · exact found
    · intro listed
      rw [holds.gone location listed] at found
      cases found
  lost := by
    intro location node found missing
    by_cases listed : location ∈ locations
    · rw [(holds.barren listed).folder] at found
      exact (Option.some.inj found).symm
    · rw [holds.kept location listed, found] at missing
      cases missing

/-- A folder has no entries left only if it is barren. -/
theorem barren_of_isHollow (holds : HasPruned tree folder path front locations tally now)
    (proper : tree.Proper) (there : tree.find? location = some .folder)
    (hollow : now.isHollow location = true) : tree.Barren location := by
  refine ⟨there, fun along node found => ?_⟩
  cases along with
  | nil =>
      rw [List.append_nil, there] at found
      exact (Option.some.inj found).symm
  | cons name along =>
      -- What is below the folder is below an entry of it, which has gone.
      rw [List.append_cons] at found
      have entry : ∃ other, tree.find? (location ++ [name]) = some other := by
        cases along with
        | nil => exact ⟨node, by rwa [List.append_nil] at found⟩
        | cons next along => exact ⟨.folder, proper.find?_front (by simp) found⟩
      rcases entry with ⟨other, present⟩
      have listed : location ++ [name] ∈ locations := by
        by_contra unlisted
        rw [← holds.kept _ unlisted, find?_of_isHollow hollow name] at present
        cases present
      exact (holds.barren listed).below along node found

/-- When the turn of a barren folder comes, it has no entries left. -/
theorem isHollow_of_barren (holds : HasPruned tree folder path front locations tally now)
    (proper : tree.Proper) (whole : tree.foldersReached folder path = front ++ location :: rest)
    (usable : textFault? (pathTo folder path location) = none)
    (barren : tree.Barren location) : now.isHollow location = true := by
  rcases lies_of_whole proper whole with ⟨⟨⟨along, further, rfl⟩, -⟩, -⟩
  refine holds.proper.isHollow_iff.2 fun name => ?_
  rcases found : tree.find? (folder ++ along ++ [name]) with _ | node
  · by_cases listed : folder ++ along ++ [name] ∈ locations
    · exact holds.gone _ listed
    · rw [holds.kept _ listed, found]
  · -- An entry is a barren folder, and comes before the folder.
    have inside : tree.Barren (folder ++ along ++ [name]) := by
      rw [barren.below [name] node found] at found
      refine ⟨found, fun inner node present => barren.below ([name] ++ inner) node ?_⟩
      rwa [← List.append_assoc]
    have reported : folder ++ along ++ [name] ∈ tree.foldersReached folder path := by
      refine List.mem_filter.2 ⟨(mem_foldersUnder_iff proper).2
        ⟨⟨along ++ [name], by simp, by simp⟩, inside.folder⟩, ?_⟩
      rw [isReached, List.dropLast_concat, usable]
      rfl
    have before : folder ++ along ++ [name] ∈ front := by
      have apart := pairwise_foldersReached proper folder path
      rw [whole] at reported apart
      rw [List.pairwise_append, List.pairwise_cons] at apart
      rcases List.mem_append.1 reported with before | later
      · exact before
      · rcases List.mem_cons.1 later with same | behind
        · simp at same
        · exact absurd (List.prefix_append _ _) (apart.2.1.1 _ behind)
    exact holds.gone _ ((holds.lists.mem_iff _ before).2 inside)

/-- A folder that has no entries when its turn comes is taken away; it is where its path says. -/
theorem eq_erase (holds : HasPruned tree folder path front locations tally now)
    (proper : tree.Proper) (found : tree.lookUp true path = .ok (folder, .folder))
    (below : Below folder location) (there : tree.find? location = some .folder)
    (done : now.removeFolder (pathTo folder path location) = .ok after) :
    now.isHollow location = true ∧ after = now.erase location := by
  rcases eq_erase_of_removeFolder done with ⟨around, name, located, -, hollow, rfl⟩
  have usable := textFault?_of_locateLast located
  rcases locateLast_pathTo proper found below there usable with ⟨place, last, rfl, leads⟩
  rw [holds.sheds.locateLast located, Except.ok.injEq, Prod.mk.injEq, LastStep.name.injEq] at leads
  rcases leads with ⟨rfl, rfl⟩
  exact ⟨hollow, rfl⟩

/-- Pruning the next folder without trouble removes it iff it is barren. -/
theorem step (holds : HasPruned tree folder path front locations tally now)
    (proper : tree.Proper) (found : tree.lookUp true path = .ok (folder, .folder))
    (whole : tree.foldersReached folder path = front ++ location :: rest)
    (pruned : Pruned false now tally (pathTo folder path location) next after)
    (untroubled : next.failures = 0) :
    ∃ locations, HasPruned tree folder path (front ++ [location]) locations next after := by
  rcases lies_of_whole proper whole with ⟨⟨below, there⟩, fresh⟩
  have reading {hollow : Bool} (read : isHollow now (pathTo folder path location) = .ok hollow) :=
    isHollow_of_read proper holds.sheds found below there read
  have usable (here : textFault? (pathTo folder path location) = none) :
      ∀ place ∈ front ++ [location], textFault? (pathTo folder path place) = none := by
    intro place present
    rcases List.mem_append.1 present with before | last
    · exact holds.usable place before
    · rwa [List.mem_singleton.1 last]
  cases pruned with
  | unread trouble => exact absurd untroubled (Nat.succ_ne_zero _)
  | stuck real hollow trouble => exact absurd untroubled (Nat.succ_ne_zero _)
  | listed pretended hollow => cases pretended
  | occupied filled =>
      have other : ¬tree.Barren location := by
        intro barren
        have hollow := holds.isHollow_of_barren proper whole (reading filled).1 barren
        rw [← (reading filled).2] at hollow
        cases hollow
      exact ⟨locations, holds.lists.skip fresh other, usable (reading filled).1, holds.proper,
        holds.here, holds.gone, holds.kept⟩
  | removed real hollow done =>
      have barren := holds.barren_of_isHollow proper there (reading hollow).2.symm
      rcases holds.eq_erase proper found below there done with ⟨empty, rfl⟩
      have inside : location ≠ [] := by
        rcases below with ⟨along, further, rfl⟩
        simp [further]
      refine ⟨locations ++ [location], holds.lists.add fresh barren, usable (reading hollow).1,
        holds.proper.erase empty, holds.here, ?_, ?_⟩
      · intro place listed
        by_cases same : place = location
        · rw [same, find?_erase_self now inside]
        · rw [find?_erase_of_ne now same]
          exact holds.gone place (by simpa [same] using listed)
      · intro place unlisted
        rw [List.mem_append, List.mem_singleton, not_or] at unlisted
        rw [find?_erase_of_ne now unlisted.2]
        exact holds.kept place unlisted.1

/-- If all folders that are reached have paths of use, then all folders below are reached. -/
theorem foldersReached_eq (proper : tree.Proper)
    (found : tree.lookUp true path = .ok (folder, .folder))
    (holds : HasPruned tree folder path (tree.foldersReached folder path) locations tally now) :
    tree.foldersReached folder path = tree.foldersUnder folder := by
  refine List.filter_eq_self.2 fun location among => ?_
  rcases (mem_foldersUnder_iff proper).1 among with ⟨⟨along, further, rfl⟩, there⟩
  clear among
  induction along using List.reverseRecOn with
  | nil => exact absurd rfl further
  | append_singleton along name ih =>
      rw [isReached_append further, List.dropLast_concat, Option.isNone_iff_eq_none]
      by_cases first : along = []
      · rw [first]
        exact textFault?_of_locate (lookUp_eq_ok_iff.1 found).1
      · rw [← List.append_assoc] at there
        have around := proper.find?_front (by simp) there
        have present := List.mem_filter.2
          ⟨(mem_foldersUnder_iff proper).2 ⟨⟨along, first, rfl⟩, around⟩, ih first around⟩
        rw [← pathTo_append folder path along]
        exact holds.usable _ present

/-- In the end the barren folders below the folder are gone, and nothing else has changed. -/
theorem cleared (proper : tree.Proper)
    (holds : HasPruned tree folder path (tree.foldersUnder folder) locations tally now) :
    Cleared tree folder now := by
  have listed_iff := holds.lists.mem_iff_below proper fun location barren => barren.folder
  refine ⟨holds.here, ?_, ?_⟩
  · exact fun location below barren => holds.gone location ((listed_iff location).2 ⟨below, barren⟩)
  · exact fun location other => holds.kept location (mt (listed_iff location).1 other)

end HasPruned

/-- A run lists and removes the barren folders, as long as there is no trouble. -/
theorem ensures_pruneAll_hasPruned (proper : tree.Proper)
    (found : tree.lookUp true path = .ok (folder, .folder))
    (listed : reported.filterMap Except.toOption =
      (tree.foldersReached folder path).map (pathTo folder path)) :
    (pruneAll false reported).Ensures tree fun result after => ∃ last, result = .ok last ∧
      (last.failures = 0 → ∃ locations,
        HasPruned tree folder path (tree.foldersUnder folder) locations last after) := by
  refine (ensures_pruneAll listed (fun front tally now => tally.failures = 0 →
    ∃ locations, HasPruned tree folder path front locations tally now) ?_ ?_ ?_).mono ?_
  · intro front location rest tally now whole holds
    apply (ensures_pruneFolder false now tally (pathTo folder path location)).mono
    rintro result after ⟨next, rfl, pruned⟩
    refine ⟨next, rfl, fun untroubled => ?_⟩
    have before : tally.failures = 0 := Nat.le_zero.1 (untroubled ▸ pruned.failures_le)
    rcases holds before with ⟨locations, holds⟩
    exact holds.step proper found whole pruned untroubled
  · exact fun front tally now holds untroubled => absurd untroubled (Nat.succ_ne_zero _)
  · exact fun _ => ⟨[], Lists.nil folder path _, by simp, proper, rfl, by simp, fun _ _ => rfl⟩
  · rintro result after ⟨last, rfl, holds⟩
    refine ⟨last, rfl, fun untroubled => ?_⟩
    rcases holds untroubled with ⟨locations, holds⟩
    exact ⟨locations, holds.foldersReached_eq proper found ▸ holds⟩

/-! ### Whole runs -/

/-- The folders below a folder are pruned, unless its path ends in a link. -/
theorem ensures_prune (proper : tree.Proper)
    (found : tree.lookUp false path = .ok (folder, .folder))
    {post : Except Error Tally → FileTree → Prop}
    (ensured : ∀ reported, reported.filterMap Except.toOption =
        (tree.foldersReached folder path).map (pathTo folder path) →
      (pruneAll trial reported).Ensures tree post) : (prune path trial).Ensures tree post := by
  rcases exists_foldersBelow proper found with ⟨reported, walked, listed⟩
  unfold prune
  apply ensures_bind (ensures_tree ?_)
  simp only [walked]
  exact ensured reported listed

/-- A report gives what the tally has, and has an error among its messages if there was trouble. -/
theorem ensures_run_of_prune {holds : Tally → FileTree → Prop}
    (ensured : (prune path trial).Ensures tree fun result after =>
      ∃ tally, result = .ok tally ∧ holds tally after) :
    (run path trial).Ensures tree fun result after =>
      ∃ report tally, result = .ok report ∧ report.removed = tally.removed ∧
        (report.Untroubled → tally.failures = 0) ∧ holds tally after := by
  unfold run
  apply ensured.bind
  · rintro error after ⟨tally, failed, -⟩
    cases failed
  · rintro value after ⟨tally, done, holds⟩
    cases done
    refine ensures_pure ⟨_, value, rfl, rfl, fun untroubled => ?_, holds⟩
    by_contra trouble
    refine untroubled (Message.error ("Could not clean " ++ Nat.repr value.failures ++
      " folder(s) in " ++ path.text)) ?_ rfl
    simp [trouble]

/-- When the barren folders have gone, no folder without entries is left to be found. -/
theorem ensures_prune_again (proper : tree.Proper)
    (found : tree.lookUp false path = .ok (folder, .folder))
    (holds : HasPruned tree folder path (tree.foldersUnder folder) locations tally now) :
    (prune path false).Ensures now fun result after =>
      ∃ tally, result = .ok tally ∧ after = now ∧ tally.removed = [] := by
  rcases looked : now.lookUp false path with fault | ⟨place, node⟩
  · have failed : now.foldersBelow path = .error fault := by
      rw [foldersBelow, looked]
      rfl
    unfold prune
    apply ensures_bind (ensures_tree ?_)
    simp only [failed]
    exact ensures_bind
      (ensures_bind (ensures_tell (ensures_pure (ensures_pure ⟨_, rfl, rfl, rfl⟩))))
  · have same := holds.sheds.lookUp looked
    rw [found, Except.ok.injEq, Prod.mk.injEq] at same
    rcases same with ⟨rfl, rfl⟩
    have filled : ∀ location ∈ now.foldersUnder folder, now.isHollow location = false := by
      intro location among
      rcases (mem_foldersUnder_iff holds.proper).1 among with ⟨below, left_⟩
      rw [← Bool.not_eq_true]
      intro hollow
      have there := holds.sheds.kept location _ left_
      have barren := holds.barren_of_isHollow proper there hollow
      rw [(holds.cleared proper).gone location below barren] at left_
      cases left_
    refine ensures_prune holds.proper looked fun reported listed => ?_
    apply (ensures_pruneAll_still holds.proper (lookUp_follow looked) listed (.inr filled)).mono
    rintro result after ⟨last, rfl, rfl, listed, lists⟩
    refine ⟨last, rfl, rfl, ?_⟩
    rw [lists.paths_eq, List.map_eq_nil_iff, List.eq_nil_iff_forall_not_mem]
    intro location present
    have among := lists.sublist.subset present
    have seen := (lists.mem_iff location among).1 present
    have hollow := holds.proper.isHollow_iff.2 seen.vacant.missing
    rw [filled location among] at hollow
    cases hollow

/--
Unless its path ends in a link, a folder is pruned of exactly those folders below it that hold
nothing but folders, as long as there is no trouble; a second run removes nothing. A trial run
leaves the tree alone, and lists exactly the folders below it that have no entries and a path that
can be used.
-/
theorem exact_of_run (proper : tree.Proper)
    (found : tree.lookUp false path = .ok (folder, .folder)) :
    (∃ report after, ((run path false).performOn tree).value = (.ok report, after) ∧
      (report.Untroubled → Cleared tree folder after ∧
        ListsBelow tree folder path tree.Barren report.removed ∧
        ∃ again, ((run path false).performOn after).value = (.ok again, after) ∧
          again.removed = [])) ∧
    ∃ report, ((run path true).performOn tree).value = (.ok report, tree) ∧
      ListsBelow tree folder path (SeenVacant tree folder path) report.removed := by
  have follows := lookUp_follow found
  constructor
  · have pruned := ensures_prune proper found fun reported listed =>
      ensures_pruneAll_hasPruned proper follows listed
    rcases (ensures_run_of_prune pruned).performOn with
      ⟨result, after, ended, report, tally, rfl, removed, untroubled, holds⟩
    refine ⟨report, after, ended, fun quiet => ?_⟩
    rcases holds (untroubled quiet) with ⟨locations, holds⟩
    refine ⟨holds.cleared proper, ?_, ?_⟩
    · rw [removed]
      refine holds.lists.listsBelow proper follows (fun location barren => barren.folder) ?_
      exact fun location listed => holds.usable location (holds.lists.sublist.subset listed)
    · rcases (ensures_run_of_prune (ensures_prune_again proper found holds)).performOn with
        ⟨result, last, ended, again, tally, rfl, removed, -, rfl, nothing⟩
      exact ⟨again, ended, removed.trans nothing⟩
  · have pruned := ensures_prune proper found fun reported listed =>
      ensures_pruneAll_still proper follows listed (.inl rfl)
    rcases (ensures_run_of_prune pruned).performOn with
      ⟨result, after, ended, report, tally, rfl, removed, -, rfl, locations, lists⟩
    refine ⟨report, ended, ?_⟩
    rw [removed]
    refine lists.listsBelow proper follows (fun location seen => seen.vacant.folder) ?_
    intro location listed
    exact ((lists.mem_iff location (lists.sublist.subset listed)).1 listed).usable

section Attic

/-- Folders that hold a folder, a file and nothing, and a link to the first one. -/
def attic : FileTree :=
  ⟨[(["e"], .folder), (["e", "f"], .folder), (["g"], .folder), (["g", "m"], .file "x"),
    (["l"], .link ⟨"e"⟩)], [], []⟩

theorem proper_attic : attic.Proper := by
  refine proper_of_entries (by decide) (by decide) ?_
  simp only [attic, List.forall_mem_cons]
  exact ⟨rfl, rfl, rfl, rfl, rfl, by simp⟩

/-- A folder that holds another one goes with it, and one that holds a file stays. -/
theorem exact_of_run_attic :
    attic.Proper ∧ attic.lookUp false ⟨"/"⟩ = .ok ([], .folder) ∧
      (∃ report after, ((run ⟨"/"⟩ false).performOn attic).value = (.ok report, after) ∧
        report.removed = [⟨"/e/f"⟩, ⟨"/e"⟩] ∧ report.Untroubled ∧ Cleared attic [] after) ∧
      ∃ report, ((run ⟨"/"⟩ true).performOn attic).value = (.ok report, attic) ∧
        report.removed = [⟨"/e/f"⟩] := by
  have found : attic.lookUp false ⟨"/"⟩ = .ok ([], .folder) := by cbv
  rcases exact_of_run proper_attic found with ⟨⟨report, after, ended, exact_⟩, trial, foretold, -⟩
  have removed : ((run ⟨"/"⟩ false).performOn attic).value.1 =
      .ok ⟨[], [], [⟨"/e/f"⟩, ⟨"/e"⟩], [.information "Removed 2 empty folder(s) in /"]⟩ := by
    cbv
  have listed : ((run ⟨"/"⟩ true).performOn attic).value.1 =
      .ok ⟨[], [], [⟨"/e/f"⟩], [.information "Would remove 1 empty folder(s) in /"]⟩ := by
    cbv
  rw [ended] at removed
  rw [foretold] at listed
  cases removed
  cases listed
  have untroubled : Report.Untroubled
      ⟨[], [], [⟨"/e/f"⟩, ⟨"/e"⟩], [.information "Removed 2 empty folder(s) in /"]⟩ := by
    simp [Report.Untroubled, Message.information]
  exact ⟨proper_attic, found, ⟨_, after, ended, rfl, untroubled, (exact_ untroubled).1⟩,
    _, foretold, rfl⟩

/-- Below a folder that is given by a link, the first folder is not even found. -/
theorem not_cleared_attic :
    attic.Proper ∧ attic.lookUp true ⟨"l"⟩ = .ok (["e"], .folder) ∧
      ∃ report, ((run ⟨"l"⟩ false).performOn attic).value = (.ok report, attic) ∧
        report.Untroubled ∧ ¬Cleared attic ["e"] attic := by
  refine ⟨proper_attic, by cbv, ⟨[], [], [], [.information "Removed 0 empty folder(s) in l"]⟩,
    by cbv, by simp [Report.Untroubled, Message.information], ?_⟩
  intro cleared
  have barren : attic.Barren ["e", "f"] := by
    refine ⟨by cbv, fun along node found => ?_⟩
    have present := mem_entries_of_find? (by simp) found
    have alone : along = [] ∧ node = .folder := by simpa [attic] using present
    exact alone.2
  have missing := cleared.gone ["e", "f"] ⟨["f"], by simp, rfl⟩ barren
  cases missing

end Attic

end Pruning

end TagOrganizer
