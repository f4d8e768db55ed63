import TagOrganizer.Proofs.Transfer.Spread

/-!
# Deliveries one after another

A run that overwrites nothing delivers files to folders, one after another, and each delivery is
decided in the tree that those before have left. Whether something is at its place when its turn
comes can be told from the tree in the beginning and from what has been decided before (`Taken`), so
that the course of a run is determined by them (`ensuresUnless_plan_moveAll`).
-/

namespace TagOrganizer

namespace Transfer

open FileTree Operation

/-- A file, as it is placed, and a folder that it goes to. -/
structure Delivery where
  file : TaggedFile
  folder : Path

namespace Delivery

/-- The path that a delivery writes to. -/
def target (delivery : Delivery) : Path :=
  targetIn delivery.folder delivery.file

/-- The folder that is made for a delivery. -/
def way (delivery : Delivery) : Path :=
  delivery.folder.join delivery.file.destination

/-- The location that a delivery writes to. -/
def place (here : Location) (delivery : Delivery) : Location :=
  placeOf here delivery.file delivery.folder

/-- Where the file of a delivery is. -/
def source (here : Location) (delivery : Delivery) : Location :=
  lexical here delivery.file.location

end Delivery

/-- The deliveries of a file, apart from those that are refused. -/
def deliveriesOf (options : MoveOptions) (folders : List Path) (file : TaggedFile) :
    List Delivery :=
  if (shouldMove options file).value then
    let (folders, placed) := placesOf options folders file
    (folders.filter fun folder => staysInside folder placed).map fun folder => ⟨placed, folder⟩
  else []

variable {options : MoveOptions} {tree start before between after : FileTree} {file : TaggedFile}
  {content : String} {folder : Path} {folders : List Path} {files : List TaggedFile}
  {delivery : Delivery} {made : Bool}

/-! ### One delivery -/

/-- Whether a tree has been changed by a delivery, which has been made or not. -/
structure Delivered (delivery : Delivery) (made : Bool) (before after : FileTree) : Prop where
  grows : Grows before after
  made_iff : made = true ↔ before.find? (delivery.place before.here) = none ∧
    ¬OnTheWay before.here delivery.way (delivery.place before.here)
  ways : ∀ location, OnTheWay before.here delivery.way location →
    after.find? location = some .folder
  taken_iff : ∀ location, after.find? location ≠ none ↔ before.find? location ≠ none ∨
    OnTheWay before.here delivery.way location ∨ location = delivery.place before.here

namespace Delivered

variable (sound : before.Sound) (inside : ¬Leaves delivery.file)

include sound inside

/--
A delivery leaves something at its target and folders on the way there. What is new besides is on
the way, too.
-/
theorem of_reached (grows : Grows before after)
    (reached : after.exists? delivery.target = true)
    (added : ∀ location node, before.find? location = none → after.find? location = some node →
      OnTheWay before.here delivery.way location ∨ location = delivery.place before.here)
    (made_iff : made = true ↔ before.find? (delivery.place before.here) = none ∧
      ¬OnTheWay before.here delivery.way (delivery.place before.here)) :
    Delivered delivery made before after := by
  have soundAfter := sound.of_grows grows
  rcases exists?_eq_true_iff.1 reached with ⟨node, led⟩
  have found := find?_placeOf soundAfter.noLinks led
  rw [grows.here] at found
  have ways : ∀ location, OnTheWay before.here delivery.way location →
      after.find? location = some .folder := by
    intro location along
    rw [← grows.here] at along
    exact find?_of_onTheWay soundAfter inside led along
  refine ⟨grows, made_iff, ways, fun location => ⟨fun filled => ?_, ?_⟩⟩
  · rcases Option.ne_none_iff_exists'.1 filled with ⟨other, found⟩
    cases earlier : before.find? location with
    | some kept => exact .inl nofun
    | none => exact .inr (added _ _ earlier found)
  · rintro (kept | along | rfl)
    · rcases Option.ne_none_iff_exists'.1 kept with ⟨other, kept⟩
      rw [grows.kept _ _ kept]
      exact nofun
    · rw [ways location along]
      exact nofun
    · show after.find? (placeOf before.here delivery.file delivery.folder) ≠ none
      rw [found]
      exact nofun

/-- Where something is at the target once the folder is there, a delivery is not made. -/
theorem of_exists (prepared : Prepared delivery.way before after)
    (there : after.exists? delivery.target = true) : Delivered delivery false before after := by
  rcases exists?_eq_true_iff.1 there with ⟨node, led⟩
  have found := find?_placeOf (prepared.grows.noLinks sound.noLinks) led
  rw [prepared.grows.here] at found
  refine of_reached sound inside prepared.grows there ?_ ⟨nofun, ?_⟩
  · exact fun location node missing found => .inl (prepared.added _ _ missing found).2
  · rintro ⟨missing, apart⟩
    exact absurd (prepared.added _ _ missing found).2 apart

/-- Where nothing is at the target once the folder is there, a delivery is made. -/
theorem of_copyFile (prepared : Prepared delivery.way before between)
    (absent : between.exists? delivery.target = false)
    (copied : between.copyFile delivery.file.location delivery.target = .ok after) :
    Delivered delivery true before after := by
  have noLinks := prepared.grows.noLinks sound.noLinks
  rcases eq_put_of_copyFile_of_absent absent copied with ⟨origin, content, -, looked, -⟩
  have original : between.nodeAt? delivery.file.location = some (.file content) := by
    rw [nodeAt?, looked]
    rfl
  rcases nodeAt?_of_copyFile noLinks absent original copied with ⟨missing, shape, there⟩
  have place : lexical between.here delivery.target = delivery.place before.here := by
    rw [prepared.grows.here]
    rfl
  rw [place] at missing shape
  have grows : Grows before after := by
    refine prepared.grows.trans ?_
    rw [shape]
    exact grows_put missing (by simp)
  have reached : after.exists? delivery.target = true := exists?_eq_true_iff.2 ⟨_, there⟩
  refine of_reached sound inside grows reached ?_ ⟨fun _ => ⟨?_, ?_⟩, fun _ => rfl⟩
  · intro location node absent found
    rw [shape] at found
    rcases find?_put_eq_some found with ⟨same, -⟩ | earlier
    · exact .inr same
    · exact .inl (prepared.added _ _ absent earlier).2
  · exact prepared.grows.absent missing
  · -- What is on the way is a folder in the end, and at the target there is a file.
    intro along
    rw [← grows.here] at along
    have folder := find?_of_onTheWay (sound.of_grows grows) inside there along
    rw [grows.here, shape, find?_put_of_none missing] at folder
    cases folder

end Delivered

/-- A delivery is made or not, unless copying fails. -/
theorem ensuresUnless_delivered_placeIn (gentle : options.force = false)
    (real : options.trialRun = false) (sound : tree.Sound)
    (inside : staysInside folder file = true) :
    (placeIn options file folder).EnsuresUnless isCopyFailure tree
      fun result after => ∀ written, result = .ok written →
        ∃ made, written = (if made then some (targetIn folder file) else none) ∧
          Delivered ⟨file, folder⟩ made tree after := by
  have within : ¬Leaves (Delivery.mk file folder).file := staysInside_iff.1 inside
  refine ensuresUnless_placeIn gentle real sound.noLinks inside (fun _ _ => nofun) ?_ ?_
  · rintro after prepared there written ⟨⟩
    exact ⟨false, rfl, Delivered.of_exists sound within prepared there⟩
  · rintro between after prepared absent done written ⟨⟩
    exact ⟨true, rfl, Delivered.of_copyFile sound within prepared absent done⟩

/-! ### Deliveries one after another -/

/-- Deliveries in order, with whether they are made. -/
abbrev Course := List (Delivery × Bool)

/-- Whether the file at a location has been moved away. -/
def Vacated (options : MoveOptions) (here : Location) (before : Course) (location : Location) :
    Prop :=
  options.keep = false ∧ ∃ earlier ∈ before, earlier.2 = true ∧ earlier.1.source here = location

/-- Whether something is at the place of a delivery when its turn comes after others. -/
inductive Taken (options : MoveOptions) (tree : FileTree) (before : Course) (delivery : Delivery) :
    Prop where
  /-- Something is there from the beginning, and has not been moved away. -/
  | there (found : tree.find? (delivery.place tree.here) ≠ none)
      (kept : delivery.place tree.here = delivery.source tree.here ∨
        ¬Vacated options tree.here before (delivery.place tree.here))
  /-- It is a folder on the way of this delivery or of an earlier one. -/
  | onTheWay {other : Delivery} (among : other = delivery ∨ other ∈ before.map Prod.fst)
      (along : OnTheWay tree.here other.way (delivery.place tree.here))
  /-- An earlier delivery has been made there. -/
  | written {other : Delivery} (made : (other, true) ∈ before)
      (same : other.place tree.here = delivery.place tree.here)

/-- Whether deliveries after others are made exactly where nothing is. -/
def Follows (options : MoveOptions) (tree : FileTree) : (before later : Course) → Prop
  | _, [] => True
  | before, (delivery, made) :: later =>
      (made = true ↔ ¬Taken options tree before delivery) ∧
        Follows options tree (before ++ [(delivery, made)]) later

/--
How far the deliveries have got: those of some files are settled, some of another file have been
decided, and the files that are pending have not been touched.
-/
structure Progress (options : MoveOptions) (start : FileTree) (settled recent : Course)
    (pending : List TaggedFile) (now : FileTree) : Prop where
  sound : now.Sound
  here : now.here = start.here
  taken_iff : ∀ location, now.find? location ≠ none ↔
    (start.find? location ≠ none ∧ ¬Vacated options start.here settled location) ∨
      ∃ earlier ∈ settled ++ recent, OnTheWay start.here earlier.1.way location ∨
        (earlier.2 = true ∧ earlier.1.place start.here = location)
  ways : ∀ earlier ∈ settled ++ recent, ∀ location,
    OnTheWay start.here earlier.1.way location → now.find? location = some .folder
  apart : ∀ earlier ∈ settled ++ recent, earlier.2 = true → ∀ file ∈ pending,
    earlier.1.place start.here ≠ lexical start.here file.location
  moved : ∀ earlier ∈ settled, ∀ file ∈ pending,
    earlier.1.source start.here ≠ lexical start.here file.location
  untouched : ∀ file ∈ pending, ∃ content, now.nodeAt? file.location = some (.file content)

variable {settled recent part later : Course} {pending : List TaggedFile} {now : FileTree}

theorem follows_append {options : MoveOptions} {tree : FileTree} {before part later : Course} :
    Follows options tree before (part ++ later) ↔
      Follows options tree before part ∧ Follows options tree (before ++ part) later := by
  induction part generalizing before with
  | nil => simp [Follows]
  | cons first part ih =>
      rw [List.cons_append, Follows, Follows, ih, List.append_assoc, List.singleton_append,
        and_assoc]

theorem Vacated.append {here location : Location}
    (vacated : Vacated options here settled location) :
    Vacated options here (settled ++ recent) location := by
  rcases vacated with ⟨moves, earlier, among, made, source⟩
  exact ⟨moves, earlier, List.mem_append_left _ among, made, source⟩

theorem vacated_append_iff {here location : Location}
    (elsewhere : options.keep = false → ∀ earlier ∈ recent, earlier.2 = true →
      earlier.1.source here ≠ location) :
    Vacated options here (settled ++ recent) location ↔
      Vacated options here settled location := by
  refine ⟨?_, Vacated.append⟩
  rintro ⟨moves, earlier, among, made, source⟩
  rcases List.mem_append.1 among with before | last
  · exact ⟨moves, earlier, before, made, source⟩
  · exact absurd source (elsewhere moves earlier last made)

namespace Progress

theorem found (progress : Progress options start settled recent pending now)
    (present : file ∈ pending) :
    ∃ content, now.find? (lexical start.here file.location) = some (.file content) := by
  rcases progress.untouched file present with ⟨content, led⟩
  refine ⟨content, ?_⟩
  rw [← progress.here]
  exact ((nodeAt?_eq_some_iff progress.sound.noLinks).1 led).2

/-- Something is at the place of a delivery iff it is taken by what went before. -/
theorem taken_iff_of_source (progress : Progress options start settled recent pending now)
    (present : file ∈ pending)
    (own : delivery.source start.here = lexical start.here file.location)
    (same : ∀ earlier ∈ recent, earlier.1.source start.here = delivery.source start.here) :
    Taken options start (settled ++ recent) delivery ↔
      now.find? (delivery.place start.here) ≠ none ∨
        OnTheWay start.here delivery.way (delivery.place start.here) := by
  constructor
  · rintro (⟨found, kept⟩ | ⟨among, along⟩ | ⟨made, place⟩)
    · left
      rcases kept with itself | kept
      · rcases progress.found present with ⟨content, there⟩
        rw [itself, own, there]
        exact nofun
      · exact (progress.taken_iff _).2 (.inl ⟨found, fun vacated => kept vacated.append⟩)
    · rcases among with rfl | among
      · exact .inr along
      · rcases List.mem_map.1 among with ⟨earlier, listed, rfl⟩
        exact .inl ((progress.taken_iff _).2 (.inr ⟨earlier, listed, .inl along⟩))
    · exact .inl ((progress.taken_iff _).2 (.inr ⟨_, made, .inr ⟨rfl, place⟩⟩))
  · rintro (filled | along)
    · rcases (progress.taken_iff _).1 filled with ⟨found, kept⟩ | ⟨earlier, among, along | written⟩
      · refine .there found ?_
        by_cases itself : delivery.place start.here = delivery.source start.here
        · exact .inl itself
        · right
          rwa [vacated_append_iff]
          intro _ earlier last _ source
          exact itself (source.symm.trans (same earlier last))
      · exact .onTheWay (.inr (List.mem_map_of_mem among)) along
      · obtain ⟨other, made⟩ := earlier
        rcases written with ⟨rfl, place⟩
        exact .written among place
    · exact .onTheWay (.inl rfl) along

/-- A delivery is made iff its place is not taken, and the deliveries get further by it. -/
theorem deliver (progress : Progress options start settled recent pending now)
    (present : file ∈ pending)
    (own : delivery.source start.here = lexical start.here file.location)
    (same : ∀ earlier ∈ recent, earlier.1.source start.here = delivery.source start.here)
    (delivered : Delivered delivery made now after) :
    (made = true ↔ ¬Taken options start (settled ++ recent) delivery) ∧
      Progress options start settled (recent ++ [(delivery, made)]) pending after := by
  have made_iff := delivered.made_iff
  have ways := delivered.ways
  have taken_iff := delivered.taken_iff
  rw [progress.here] at made_iff ways taken_iff
  refine ⟨?_, progress.sound.of_grows delivered.grows, delivered.grows.here.trans progress.here,
    fun location => ?_, ?_, ?_, progress.moved, ?_⟩
  · rw [made_iff, progress.taken_iff_of_source present own same, not_or, not_not]
  · rw [← List.append_assoc]
    have last : (delivery, made) ∈ settled ++ recent ++ [(delivery, made)] := by simp
    constructor
    · intro filled
      have cases : now.find? location ≠ none ∨ OnTheWay start.here delivery.way location ∨
          made = true ∧ delivery.place start.here = location := by
        rcases (taken_iff location).1 filled with before | along | rfl
        · exact .inl before
        · exact .inr (.inl along)
        · -- A delivery that is not made finds something at its place, or puts a folder there.
          tauto
      rcases cases with before | along | written
      · rcases (progress.taken_iff location).1 before with kept | ⟨earlier, among, why⟩
        · exact .inl kept
        · exact .inr ⟨earlier, List.mem_append_left _ among, why⟩
      · exact .inr ⟨_, last, .inl along⟩
      · exact .inr ⟨_, last, .inr written⟩
    · rintro (kept | ⟨earlier, among, why⟩)
      · exact (taken_iff location).2 (.inl ((progress.taken_iff location).2 (.inl kept)))
      · rcases List.mem_append.1 among with before | among
        · have filled := (progress.taken_iff location).2 (.inr ⟨earlier, before, why⟩)
          exact (taken_iff location).2 (.inl filled)
        · rw [List.mem_singleton.1 among] at why
          exact (taken_iff location).2 (.inr (why.imp_right fun written => written.2.symm))
  · rw [← List.append_assoc]
    intro earlier among location along
    rcases List.mem_append.1 among with before | last
    · exact delivered.grows.kept _ _ (progress.ways earlier before location along)
    · rw [List.mem_singleton.1 last] at along
      exact ways location along
  · rw [← List.append_assoc]
    intro earlier among written other waiting
    rcases List.mem_append.1 among with before | last
    · exact progress.apart earlier before written other waiting
    · rw [List.mem_singleton.1 last] at written ⊢
      intro place
      rcases progress.found waiting with ⟨content, there⟩
      rw [← place, (made_iff.1 written).1] at there
      cases there
  · intro other waiting
    rcases progress.untouched other waiting with ⟨content, led⟩
    exact ⟨content, delivered.grows.nodeAt? progress.sound.noLinks led⟩

section Settle

variable (progress : Progress options start settled recent (file :: pending) now)
  (same : ∀ earlier ∈ recent, earlier.1.source start.here = lexical start.here file.location)
  (distinct : ∀ other ∈ pending,
    lexical start.here file.location ≠ lexical start.here other.location)

include progress same distinct

theorem moved_append : ∀ earlier ∈ settled ++ recent, ∀ other ∈ pending,
    earlier.1.source start.here ≠ lexical start.here other.location := by
  intro earlier among other waiting
  rcases List.mem_append.1 among with before | last
  · exact progress.moved earlier before other (List.mem_cons_of_mem _ waiting)
  · rw [same earlier last]
    exact distinct other waiting

/-- A file that is not removed is settled as it is. -/
theorem settle (kept : ¬(options.keep = false ∧ ∃ earlier ∈ recent, earlier.2 = true)) :
    Progress options start (settled ++ recent) [] pending now where
  sound := progress.sound
  here := progress.here
  taken_iff := by
    intro location
    rw [progress.taken_iff, vacated_append_iff, List.append_nil]
    exact fun moves earlier last made => absurd ⟨moves, earlier, last, made⟩ kept
  ways := by simpa using progress.ways
  apart := by
    rw [List.append_nil]
    exact fun earlier among written other waiting =>
      progress.apart earlier among written other (List.mem_cons_of_mem _ waiting)
  moved := moved_append progress same distinct
  untouched := fun other waiting => progress.untouched other (List.mem_cons_of_mem _ waiting)

/-- A file that has been delivered is removed where files are not kept. -/
theorem settle_erase (moves : options.keep = false) (made : ∃ earlier ∈ recent, earlier.2 = true) :
    Progress options start (settled ++ recent) [] pending
      (now.erase (lexical start.here file.location)) := by
  have waiting : file ∈ file :: pending := by simp
  rcases progress.found waiting with ⟨content, there⟩
  have apart {location : Location} (along : now.find? location = some .folder) :
      location ≠ lexical start.here file.location := by
    rintro rfl
    rw [there] at along
    cases along
  refine ⟨progress.sound.erase there, progress.here, fun location => ?_, ?_, ?_, ?_, ?_⟩
  · rw [List.append_nil]
    by_cases itself : location = lexical start.here file.location
    · subst itself
      rw [find?_erase_self now (ne_nil_of_file there)]
      refine ⟨fun none => absurd rfl none, ?_⟩
      rintro (⟨-, kept⟩ | ⟨earlier, among, along | ⟨written, place⟩⟩)
      · rcases made with ⟨earlier, last, written⟩
        exact absurd ⟨moves, earlier, List.mem_append_right _ last, written, same earlier last⟩ kept
      · exact absurd rfl (apart (progress.ways earlier among _ along))
      · exact absurd place (progress.apart earlier among written file waiting)
    · rw [find?_erase_of_ne now itself, progress.taken_iff, vacated_append_iff]
      intro _ earlier last _ source
      exact itself (source.symm.trans (same earlier last))
  · rw [List.append_nil]
    intro earlier among location along
    have found := progress.ways earlier among location along
    rw [find?_erase_of_ne now (apart found)]
    exact found
  · rw [List.append_nil]
    exact fun earlier among written other waiting =>
      progress.apart earlier among written other (List.mem_cons_of_mem _ waiting)
  · exact moved_append progress same distinct
  · intro other waiting
    rcases progress.untouched other (List.mem_cons_of_mem _ waiting) with ⟨kept, led⟩
    refine ⟨kept, (keepsFolders_erase there).nodeAt? progress.sound.noLinks led ?_⟩
    have found := ((nodeAt?_eq_some_iff progress.sound.noLinks).1 led).2
    rw [progress.here] at found ⊢
    rwa [find?_erase_of_ne now (distinct other waiting).symm]

end Settle

end Progress

/-! ### Runs -/

/-- The targets of the deliveries that are made. -/
def writtenOf (course : Course) : List Path :=
  (course.filter Prod.snd).map fun made => made.1.target

/-- What has been done after the deliveries of one more file. -/
def Tally.add (options : MoveOptions) (tally : Tally) (file : TaggedFile) (part : Course) :
    Tally where
  written := tally.written ++ writtenOf part
  skipped := if (shouldMove options file).value then tally.skipped else tally.skipped + 1
  removed := if part.any Prod.snd && !options.keep then tally.removed + 1 else tally.removed

/-- Files in order, each with its deliveries. -/
abbrev Plan := List (TaggedFile × Course)

namespace Plan

/-- All deliveries in order. -/
def course (plan : Plan) : Course :=
  plan.flatMap Prod.snd

/-- What has been done once all deliveries have been made or not. -/
def tally (options : MoveOptions) (plan : Plan) (start : Tally) : Tally :=
  plan.foldl (fun tally entry => tally.add options entry.1 entry.2) start

/-- Whether a plan decides about the deliveries of some files. -/
structure Of (options : MoveOptions) (folders : List Path) (files : List TaggedFile)
    (plan : Plan) : Prop where
  files : plan.map Prod.fst = files
  deliveries : ∀ entry ∈ plan, entry.2.map Prod.fst = deliveriesOf options folders entry.1

end Plan

theorem isEmpty_writtenOf (course : Course) :
    (writtenOf course).isEmpty = !course.any Prod.snd := by
  induction course with
  | nil => rfl
  | cons first course ih =>
      obtain ⟨delivery, made⟩ := first
      cases made with
      | true => simp [writtenOf]
      | false => simpa [writtenOf] using ih

theorem source_of_mem_deliveriesOf {here : Location}
    (among : delivery ∈ deliveriesOf options folders file) :
    delivery.source here = lexical here file.location := by
  unfold deliveriesOf at among
  split at among
  · rcases List.mem_map.1 among with ⟨folder, -, rfl⟩
    exact congrArg (lexical here) (location_placesOf options folders file)
  · cases among

section Real

variable (gentle : options.force = false) (real : options.trialRun = false)

include gentle real

/-- What is decided about a file in some folders is that it is delivered where nothing is. -/
theorem ensuresUnless_progress_mapM_placeIn {placed : TaggedFile} {chosen : List Path}
    (located : placed.location = file.location) (present : file ∈ pending)
    (same : ∀ earlier ∈ recent, earlier.1.source start.here = lexical start.here file.location)
    (progress : Progress options start settled recent pending tree) :
    (chosen.mapM (placeIn options placed)).EnsuresUnless isCopyFailure tree
      fun result after => ∀ targets, result = .ok targets → ∃ part : Course,
        part.map Prod.fst = (chosen.filter fun folder => staysInside folder placed).map
          (Delivery.mk placed) ∧
        targets.filterMap id = writtenOf part ∧ Follows options start (settled ++ recent) part ∧
        Progress options start settled (recent ++ part) pending after := by
  induction chosen generalizing recent tree with
  | nil =>
      refine (ensures_pure ?_).unless
      rintro targets ⟨⟩
      exact ⟨[], rfl, rfl, trivial, by rwa [List.append_nil]⟩
  | cons folder chosen ih =>
      cases inside : staysInside folder placed with
      | false =>
          have refused : (placeIn options placed folder).Ensures tree fun result after =>
              after = tree ∧ result = .ok none :=
            ensures_placeIn_of (fun _ => ⟨rfl, rfl⟩) fun within => by
              rw [inside] at within
              cases within
          apply refused.unless.mapM_cons
          · rintro error between ⟨-, ⟨⟩⟩
          · rintro first between ⟨rfl, ⟨⟩⟩
            apply (ih same progress).mono
            rintro (error | rest) after decided targets ⟨⟩
            rcases decided rest rfl with ⟨part, fits, written, follows, progress⟩
            exact ⟨part, by simpa [inside] using fits, by simpa using written, follows, progress⟩
      | true =>
          apply (ensuresUnless_delivered_placeIn gentle real progress.sound inside).mapM_cons
          · rintro error between - targets ⟨⟩
          · intro first between delivered
            rcases delivered first rfl with ⟨made, shape, delivered⟩
            have own : (Delivery.mk placed folder).source start.here =
                lexical start.here file.location := by
              rw [Delivery.source, located]
            rcases progress.deliver present own (fun earlier among => (same earlier among).trans
              own.symm) delivered with ⟨made_iff, progress⟩
            have still : ∀ earlier ∈ recent ++ [(Delivery.mk placed folder, made)],
                earlier.1.source start.here = lexical start.here file.location := by
              intro earlier among
              rcases List.mem_append.1 among with before | last
              · exact same earlier before
              · rw [List.mem_singleton.1 last]
                exact own
            apply (ih still progress).mono
            rintro (error | rest) after decided targets ⟨⟩
            rcases decided rest rfl with ⟨part, fits, written, follows, progress⟩
            refine ⟨(⟨placed, folder⟩, made) :: part, by simp [inside, fits], ?_, ?_, ?_⟩
            · rw [shape]
              cases made with
              | false => exact (List.filterMap_cons_none rfl).trans written
              | true => exact congrArg (List.cons (targetIn folder placed)) written
            · rw [← List.append_assoc] at follows
              exact ⟨made_iff, follows⟩
            · rwa [List.append_assoc, List.singleton_append] at progress

theorem ensuresUnless_progress_placeInAll {pending : List TaggedFile} {now : FileTree}
    (progress : Progress options start settled [] (file :: pending) now)
    (wanted : (shouldMove options file).value = true) :
    (placeInAll options (placesOf options folders file).2
      (placesOf options folders file).1).EnsuresUnless isCopyFailure now
      fun result after => ∀ written, result = .ok written → ∃ part : Course,
        part.map Prod.fst = deliveriesOf options folders file ∧ written = writtenOf part ∧
        Follows options start settled part ∧
        Progress options start settled part (file :: pending) after := by
  unfold placeInAll
  have located := location_placesOf options folders file
  apply (ensuresUnless_progress_mapM_placeIn gentle real located (by simp) (by simp) progress).bind
  · rintro error after - written ⟨⟩
  · intro targets after decided
    refine (ensures_pure ?_).unless
    rintro written ⟨⟩
    rcases decided targets rfl with ⟨part, fits, written, follows, progress⟩
    rw [List.append_nil] at follows
    refine ⟨part, ?_, written, follows, progress⟩
    rw [fits, deliveriesOf, if_pos wanted]

/-- All deliveries of a file are decided, and the file is settled. -/
theorem ensuresUnless_progress_moveFile
    (distinct : ∀ other ∈ pending,
      lexical start.here file.location ≠ lexical start.here other.location)
    (progress : Progress options start settled [] (file :: pending) now) (tally : Tally) :
    (moveFile options folders tally file).EnsuresUnless isCopyFailure now
      fun result after => ∀ next, result = .ok next → ∃ part : Course,
        part.map Prod.fst = deliveriesOf options folders file ∧ next = tally.add options file part ∧
        Follows options start settled part ∧
        Progress options start (settled ++ part) [] pending after := by
  unfold moveFile
  apply ensuresUnless_bind (ensures_logged ?_).unless
  simp only
  split
  · rename_i wanted
    apply (ensuresUnless_progress_placeInAll gentle real progress wanted).bind
    · rintro error between - next ⟨⟩
    · intro written between decided
      rcases decided written rfl with ⟨part, fits, rfl, follows, progress⟩
      have same : ∀ earlier ∈ part,
          earlier.1.source start.here = lexical start.here file.location := by
        intro earlier among
        apply source_of_mem_deliveriesOf
        rw [← fits]
        exact List.mem_map_of_mem among
      have added (removed : Nat)
          (counts : removed = if part.any Prod.snd && !options.keep then tally.removed + 1
            else tally.removed) :
          (⟨tally.written ++ writtenOf part, tally.skipped, removed⟩ : Tally) =
            tally.add options file part := by
        rw [Tally.add, if_pos wanted, counts]
      rw [isEmpty_writtenOf, Bool.not_not]
      split
      · rename_i removable
        have moves := removable
        simp only [Bool.and_eq_true, Bool.not_eq_true', List.any_eq_true] at moves
        apply (ensures_removeSource_of_real real progress.sound.noLinks).unless.bind
        · rintro error after - next ⟨⟩
        · intro _ after shape
          refine (ensures_pure ?_).unless
          rintro next ⟨⟩
          rw [shape _ rfl, progress.here]
          exact ⟨part, fits, added _ (by rw [if_pos removable]), follows,
            progress.settle_erase same distinct moves.2 moves.1⟩
      · rename_i kept
        refine (ensures_pure ?_).unless
        rintro next ⟨⟩
        refine ⟨part, fits, added _ (by rw [if_neg kept]), follows,
          progress.settle same distinct fun removable => kept ?_⟩
        simpa [List.any_eq_true, and_comm] using removable
  · rename_i unwanted
    refine (ensures_pure ?_).unless
    rintro next ⟨⟩
    refine ⟨[], ?_, ?_, trivial, ?_⟩
    · rw [deliveriesOf, if_neg unwanted]
      rfl
    · rw [Tally.add, if_neg unwanted]
      simp [writtenOf]
    · exact progress.settle (by simp) distinct (by simp)

theorem ensuresUnless_progress_foldlM (folders : List Path)
    (distinct : files.Pairwise fun file other =>
      lexical start.here file.location ≠ lexical start.here other.location)
    (progress : Progress options start settled [] files now) (tally : Tally) :
    (files.foldlM (moveFile options folders) tally).EnsuresUnless isCopyFailure now
      fun result _ => ∀ last, result = .ok last → ∃ plan : Plan, plan.Of options folders files ∧
        last = plan.tally options tally ∧ Follows options start settled plan.course := by
  induction files generalizing settled now tally with
  | nil =>
      refine (ensures_pure ?_).unless
      rintro last ⟨⟩
      exact ⟨[], ⟨rfl, by simp⟩, rfl, trivial⟩
  | cons file files ih =>
      rw [List.foldlM_cons]
      rcases List.pairwise_cons.1 distinct with ⟨apart, distinct⟩
      apply (ensuresUnless_progress_moveFile gentle real apart progress tally).bind
      · rintro error between - last ⟨⟩
      · intro next between decided
        rcases decided next rfl with ⟨part, fits, rfl, follows, progress⟩
        apply (ih distinct progress _).mono
        intro result after planned last done
        rcases planned last done with ⟨plan, of, rfl, further⟩
        refine ⟨(file, part) :: plan, ⟨by simp [of.files], ?_⟩, rfl, ?_⟩
        · intro entry among
          rcases List.mem_cons.1 among with rfl | among
          · exact fits
          · exact of.deliveries entry among
        · rw [Plan.course, List.flatMap_cons]
          exact follows_append.2 ⟨follows, further⟩

/-- A run makes exactly the deliveries to where nothing is when their turn comes. -/
theorem ensuresUnless_plan_moveAll (sound : tree.Sound)
    (originals : ∀ file ∈ files, ∃ content, tree.nodeAt? file.location = some (.file content))
    (distinct : files.Pairwise fun file other =>
      lexical tree.here file.location ≠ lexical tree.here other.location) :
    (moveAll options folders files).EnsuresUnless isCopyFailure tree fun result _ =>
      ∀ tally, result = .ok tally →
        (options.renameOnly = false → (checkOutputs options folders).Ensures tree
          fun result after => result = .ok () ∧ after = tree) ∧
        ∃ plan : Plan, plan.Of options folders files ∧ tally = plan.tally options ⟨[], 0, 0⟩ ∧
          Follows options tree [] plan.course := by
  have progress : Progress options tree [] [] files tree :=
    ⟨sound, rfl, by simp [Vacated], by simp, by simp, by simp, originals⟩
  have moved :=
    ensuresUnless_progress_foldlM gentle real folders distinct progress ⟨[], 0, 0⟩
  unfold moveAll
  cases inPlace : options.renameOnly with
  | true =>
      simp only [Bool.not_true, Bool.false_eq_true, if_false]
      refine moved.mono fun result after planned tally done => ⟨nofun, planned tally done⟩
  | false =>
      have checked : (checkOutputs options folders).Ensures tree fun _ after => after = tree :=
        ensures_forM (fun folder tree _ same => ensures_checkOutput gentle folder same) rfl
      simp only [Bool.not_false, if_true]
      apply checked.ended.unless.bind
      · rintro error between - tally ⟨⟩
      · rintro _ between ⟨ended, rfl⟩
        refine moved.mono fun result after planned tally done => ⟨fun _ => ?_, planned tally done⟩
        exact ⟨_, _, ended, rfl, rfl⟩

end Real

end Transfer

end TagOrganizer
