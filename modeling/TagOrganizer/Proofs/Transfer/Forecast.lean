import Mathlib
import TagOrganizer.Proofs.Transfer.Copies
import TagOrganizer.Proofs.Transfer.Course

/-!
# What trial runs foretell

A trial run decides about each file in the tree as it is, while a run decides in the tree that the
files before have left. So it foretells the run iff for each delivery of a file to a folder
something is at the target exactly if its place is taken when its turn comes (`foretold_eq_iff`).
-/

namespace TagOrganizer

namespace Transfer

open FileTree Operation

variable {options : MoveOptions} {tree after : FileTree} {folders : List Path}
  {files : List TaggedFile}

/-! ### Trial runs -/

/-- The options under which nothing is changed. -/
def rehearsed (options : MoveOptions) : MoveOptions :=
  { options with trialRun := true }

/-- Deliveries that are decided in a tree as it is. -/
def foreseen (tree : FileTree) (deliveries : List Delivery) : Course :=
  deliveries.map fun delivery => (delivery, !tree.exists? delivery.target)

/-- The plan of a trial run: each delivery is decided in the tree as it is. -/
def forecast (options : MoveOptions) (folders : List Path) (tree : FileTree)
    (files : List TaggedFile) : Plan :=
  files.map fun file => (file, foreseen tree (deliveriesOf options folders file))

section Trial

variable (gentle : options.force = false) (trial : options.trialRun = true)

include trial

theorem ensures_makeDestination_of_trial (path : Path) :
    (makeDestination options path).Ensures tree fun result after =>
      result = .ok () ∧ after = tree := by
  unfold makeDestination
  apply ensures_bind (ensures_tree ?_)
  rw [trial]
  simp only
  split
  · exact ensures_bind (ensures_tell (ensures_pure ⟨rfl, rfl⟩))
  · exact ensures_pure ⟨rfl, rfl⟩

include gentle

/-- In a trial run a file is told to be written where nothing is. -/
theorem ensures_placeIn_of_trial (file : TaggedFile) (folder : Path) :
    (placeIn options file folder).Ensures tree fun result after =>
      result = .ok (if staysInside folder file && !tree.exists? (targetIn folder file) then
        some (targetIn folder file) else none) ∧ after = tree := by
  refine ensures_placeIn_of (fun inside => by simp [inside]) fun inside => ?_
  rw [inside, Bool.true_and]
  unfold placeAt
  apply ensures_bind (ensures_tree ?_)
  simp only
  split
  · rename_i same
    rw [exists?_of_isSame same]
    exact ensures_bind (ensures_tell (ensures_pure ⟨rfl, rfl⟩))
  · apply ensures_bind (ensures_tell ?_)
    apply (ensures_makeDestination_of_trial trial (folder.join file.destination)).bind
    · rintro error between ⟨⟨⟩, -⟩
    · rintro _ between ⟨-, rfl⟩
      apply (ensures_makeRoom gentle (targetIn folder file)).bind
      · rintro error after ⟨-, ⟨⟩⟩
      · rintro _ after ⟨rfl, ⟨⟩⟩
        unfold copyTo
        rw [trial]
        cases after.exists? (targetIn folder file) with
        | true => exact ensures_pure ⟨rfl, rfl⟩
        | false => exact ensures_bind (ensures_pure (ensures_pure ⟨rfl, rfl⟩))

theorem ensures_mapM_placeIn_of_trial (file : TaggedFile) (chosen : List Path) :
    (chosen.mapM (placeIn options file)).Ensures tree fun result after =>
      ∃ targets, result = .ok targets ∧ after = tree ∧
        targets.filterMap id = writtenOf (foreseen tree
          ((chosen.filter fun folder => staysInside folder file).map (Delivery.mk file))) := by
  induction chosen with
  | nil => exact ensures_pure ⟨[], rfl, rfl, rfl⟩
  | cons folder chosen ih =>
      apply (ensures_placeIn_of_trial gentle trial file folder).mapM_cons
      · rintro error between ⟨⟨⟩, -⟩
      · rintro _ between ⟨⟨⟩, rfl⟩
        apply ih.mono
        rintro _ after ⟨targets, rfl, rfl, written⟩
        refine ⟨_, rfl, rfl, ?_⟩
        cases inside : staysInside folder file with
        | false => simpa [inside] using written
        | true =>
            cases there : after.exists? (targetIn folder file) with
            | true => simpa [inside, there, foreseen, writtenOf, Delivery.target] using written
            | false => simpa [inside, there, foreseen, writtenOf, Delivery.target] using written

theorem ensures_moveFile_of_trial (folders : List Path) (tally : Tally) (file : TaggedFile) :
    (moveFile options folders tally file).Ensures tree fun result after =>
      result = .ok (tally.add options file (foreseen tree (deliveriesOf options folders file))) ∧
        after = tree := by
  unfold moveFile
  apply ensures_bind (ensures_logged ?_)
  simp only
  split
  · rename_i wanted
    have placed : (placeInAll options (placesOf options folders file).2
        (placesOf options folders file).1).Ensures tree fun result after =>
          result = .ok (writtenOf (foreseen tree (deliveriesOf options folders file))) ∧
            after = tree := by
      unfold placeInAll
      apply (ensures_mapM_placeIn_of_trial gentle trial _ _).bind
      · rintro error after ⟨targets, ⟨⟩, -⟩
      · rintro _ after ⟨targets, ⟨⟩, rfl, written⟩
        refine ensures_pure ⟨?_, rfl⟩
        rw [written, deliveriesOf, if_pos wanted]
    apply placed.bind
    · rintro error after ⟨⟨⟩, -⟩
    · rintro _ after ⟨⟨⟩, rfl⟩
      rw [isEmpty_writtenOf, Bool.not_not, Tally.add, if_pos wanted]
      split
      · unfold removeSource
        rw [trial, bind_assoc]
        exact ensures_bind (ensures_tell (ensures_bind (ensures_pure (ensures_pure ⟨rfl, rfl⟩))))
      · exact ensures_pure ⟨rfl, rfl⟩
  · rename_i unwanted
    refine ensures_pure ⟨?_, rfl⟩
    rw [Tally.add, foreseen, deliveriesOf, if_neg unwanted, if_neg unwanted]
    simp [writtenOf]

theorem ensures_foldlM_of_trial (folders : List Path) (files : List TaggedFile) (tally : Tally) :
    (files.foldlM (moveFile options folders) tally).Ensures tree fun result after =>
      result = .ok ((forecast options folders tree files).tally options tally) ∧
        after = tree := by
  induction files generalizing tally with
  | nil => exact ensures_pure ⟨rfl, rfl⟩
  | cons file files ih =>
      rw [List.foldlM_cons]
      apply (ensures_moveFile_of_trial gentle trial folders tally file).bind
      · rintro error after ⟨⟨⟩, -⟩
      · rintro _ after ⟨⟨⟩, rfl⟩
        exact ih _

/-- A trial run ends as its forecast says, and changes nothing. -/
theorem ensures_moveAll_of_trial (files : List TaggedFile)
    (checked : options.renameOnly = false → (checkOutputs options folders).Ensures tree
      fun result after => result = .ok () ∧ after = tree) :
    (moveAll options folders files).Ensures tree fun result after =>
      result = .ok ((forecast options folders tree files).tally options ⟨[], 0, 0⟩) ∧
        after = tree := by
  have moved (start : FileTree) :=
    @ensures_foldlM_of_trial options start gentle trial folders files ⟨[], 0, 0⟩
  unfold moveAll
  cases inPlace : options.renameOnly with
  | true =>
      simp only [Bool.not_true, Bool.false_eq_true, if_false]
      exact moved tree
  | false =>
      simp only [Bool.not_false, if_true]
      apply (checked inPlace).bind
      · rintro error after ⟨⟨⟩, -⟩
      · rintro _ after ⟨-, rfl⟩
        exact moved after

end Trial

/-- The check of the output folders does not depend on whether a run is a trial. -/
theorem checkOutputs_rehearsed (gentle : options.force = false) (folders : List Path) :
    checkOutputs (rehearsed options) folders = checkOutputs options folders := by
  have same : checkOutput (rehearsed options) = checkOutput options := by
    funext folder
    simp only [checkOutput, rehearsed, gentle, Bool.false_eq_true, if_false]
  rw [checkOutputs, same, checkOutputs]

/-- Trial runs foretell the same whether or not a run is a trial itself. -/
theorem tally_forecast_rehearsed (start : Tally) :
    (forecast (rehearsed options) folders tree files).tally (rehearsed options) start =
      (forecast options folders tree files).tally options start :=
  rfl

/-! ### Forecasts that come true -/

theorem map_fst_foreseen (tree : FileTree) (deliveries : List Delivery) :
    (foreseen tree deliveries).map Prod.fst = deliveries := by
  simp [foreseen, Function.comp_def]

/--
Where items that are chosen have the same images as those whose images fit, exactly those have been
chosen.
-/
theorem eq_of_map_filter {α β : Type} {items : List α} {image : α → β} {chosen : α → Bool}
    {fits : β → Bool}
    (same : (items.filter (fits ∘ image)).map image = (items.filter chosen).map image) :
    ∀ item ∈ items, chosen item = fits (image item) := by
  have implied : ∀ item ∈ items, chosen item = true → fits (image item) = true := by
    intro item among holds
    have listed : image item ∈ (items.filter (fits ∘ image)).map image := by
      rw [same]
      exact List.mem_map_of_mem (List.mem_filter.2 ⟨among, holds⟩)
    rcases List.mem_map.1 listed with ⟨other, kept, equal⟩
    rw [← equal]
    exact (List.mem_filter.1 kept).2
  -- There are as many of either, so that nothing else fits.
  have counted : (items.filter chosen).length = (items.filter (fits ∘ image)).length := by
    simpa using congrArg List.length same.symm
  have within : items.filter chosen = (items.filter (fits ∘ image)).filter chosen := by
    rw [List.filter_filter]
    refine List.filter_congr fun item among => ?_
    cases holds : chosen item with
    | false => rfl
    | true => rw [Bool.true_and, Function.comp_apply, implied item among holds]
  rw [within, List.length_filter_eq_length_iff] at counted
  intro item among
  refine Bool.eq_iff_iff.2 ⟨implied item among, fun fitting => ?_⟩
  exact counted item (List.mem_filter.2 ⟨among, fitting⟩)

/--
Deliveries are made exactly where nothing is in a tree as it is, if those that are made have the
same targets.
-/
theorem eq_foreseen_of_writtenOf {course : Course}
    (same : writtenOf (foreseen tree (course.map Prod.fst)) = writtenOf course) :
    course = foreseen tree (course.map Prod.fst) := by
  rw [foreseen, List.map_map] at same ⊢
  rw [writtenOf, writtenOf, List.filter_map, List.map_map] at same
  have agree := @eq_of_map_filter _ _ course (fun decided => decided.1.target) Prod.snd
    (fun target => !tree.exists? target) same
  refine ((List.map_congr_left fun decided among => ?_).trans (List.map_id course)).symm
  exact Prod.ext rfl (agree decided among).symm

/-- There is only one course that follows. -/
theorem follows_unique {before one other : Course} (follows : Follows options tree before one)
    (alike : Follows options tree before other)
    (same : one.map Prod.fst = other.map Prod.fst) : one = other := by
  induction one generalizing before other with
  | nil => exact (List.map_eq_nil_iff.1 same.symm).symm
  | cons first one ih =>
      rcases List.map_eq_cons_iff.1 same.symm with ⟨head, rest, rfl, equal, rests⟩
      obtain ⟨delivery, made⟩ := first
      obtain ⟨_, decided⟩ := head
      cases equal
      have agree : made = decided := Bool.eq_iff_iff.2 (follows.1.trans alike.1.symm)
      subst agree
      rw [ih follows.2 alike.2 rests.symm]

namespace Plan

variable {plan one other : Plan}

theorem Of.course_fst (of : plan.Of options folders files) :
    plan.course.map Prod.fst = files.flatMap (deliveriesOf options folders) := by
  rw [← of.files, course, List.map_flatMap, List.flatMap_map]
  exact List.flatMap_congr of.deliveries

/-- A plan is made up by its course. -/
theorem Of.unique (of : one.Of options folders files) (alike : other.Of options folders files)
    (same : one.course = other.course) : one = other := by
  induction files generalizing one other with
  | nil =>
      rw [List.map_eq_nil_iff.1 of.files, List.map_eq_nil_iff.1 alike.files]
  | cons file files ih =>
      rcases List.map_eq_cons_iff.1 of.files with ⟨⟨_, part⟩, rest, rfl, rfl, rests⟩
      rcases List.map_eq_cons_iff.1 alike.files with ⟨⟨_, twin⟩, others, rfl, rfl, further⟩
      have parts : part.map Prod.fst = twin.map Prod.fst :=
        (of.deliveries _ List.mem_cons_self).trans (alike.deliveries _ List.mem_cons_self).symm
      have lengths : part.length = twin.length := by simpa using congrArg List.length parts
      rcases List.append_inj same lengths with ⟨equal, remaining⟩
      cases (equal : part = twin)
      rw [ih ⟨rests, fun entry among => of.deliveries entry (List.mem_cons_of_mem _ among)⟩
        ⟨further, fun entry among => alike.deliveries entry (List.mem_cons_of_mem _ among)⟩
        remaining]

theorem written_tally (plan : Plan) (start : Tally) :
    (plan.tally options start).written = start.written ++ writtenOf plan.course := by
  induction plan generalizing start with
  | nil => simp [tally, course, writtenOf]
  | cons entry plan ih =>
      have rest := ih (start.add options entry.1 entry.2)
      rw [Tally.add, List.append_assoc] at rest
      refine rest.trans ?_
      simp [writtenOf, course]

end Plan

theorem of_forecast (options : MoveOptions) (folders : List Path) (tree : FileTree)
    (files : List TaggedFile) :
    (forecast options folders tree files).Of options folders files where
  files := by simp [forecast, Function.comp_def]
  deliveries := by
    intro entry among
    rcases List.mem_map.1 among with ⟨file, -, rfl⟩
    exact map_fst_foreseen tree _

theorem course_forecast (options : MoveOptions) (folders : List Path) (tree : FileTree)
    (files : List TaggedFile) :
    (forecast options folders tree files).course =
      foreseen tree (files.flatMap (deliveriesOf options folders)) := by
  rw [Plan.course, forecast, List.flatMap_map, foreseen, List.map_flatMap]
  rfl

/-- A forecast gives what has been done iff it follows, that is if it is what happens. -/
theorem tally_forecast_eq_iff {plan : Plan} (of : plan.Of options folders files)
    (follows : Follows options tree [] plan.course) (start : Tally) :
    (forecast options folders tree files).tally options start = plan.tally options start ↔
      Follows options tree [] (forecast options folders tree files).course := by
  constructor
  · intro same
    have written := congrArg Tally.written same
    rw [Plan.written_tally, Plan.written_tally, List.append_cancel_left_eq, course_forecast,
      ← of.course_fst] at written
    rwa [course_forecast, ← of.course_fst, ← eq_foreseen_of_writtenOf written]
  · intro comes
    have courses := follows_unique comes follows
      ((of_forecast ..).course_fst.trans of.course_fst.symm)
    rw [(of_forecast ..).unique of courses]

/-- The report about some files. -/
def reportOf (options : MoveOptions) (files : List TaggedFile) (tally : Tally) : Report where
  files := files
  written := tally.written
  removed := []
  messages := messagesOf options tally

/-- A message for a count, unless the count is zero. -/
def counted (say : Nat → Message) (count : Nat) : List Message :=
  if count = 0 then [] else [say count]

theorem counted_inj {say : Nat → Message} (saying : say.Injective) {one other : Nat}
    (same : counted say one = counted say other) : one = other := by
  unfold counted at same
  split at same
  · rename_i none
    split at same
    · rename_i empty
      rw [none, empty]
    · cases same
  · split at same
    · cases same
    · exact saying (List.cons.inj same).1

/-- What is told of two counts tells them apart, if it is told in messages of different kinds. -/
theorem counted_append_inj {say mention : Nat → Message} (saying : say.Injective)
    (mentioning : mention.Injective) {kind : MessageKind}
    (first : ∀ count, (say count).kind = kind) (second : ∀ count, (mention count).kind ≠ kind)
    {one other count total : Nat}
    (same : counted say one ++ counted mention count = counted say other ++ counted mention total) :
    one = other ∧ count = total := by
  have kept (number : Nat) : (counted say number).filter (·.kind = kind) = counted say number := by
    simp [counted, apply_ite, first]
  have left (number : Nat) : (counted mention number).filter (·.kind = kind) = [] := by
    simp [counted, apply_ite, second]
  have filtered := congrArg (List.filter (·.kind = kind)) same
  rw [List.filter_append, List.filter_append, kept, kept, left, left, List.append_nil,
    List.append_nil] at filtered
  cases counted_inj saying filtered
  exact ⟨rfl, counted_inj mentioning (List.append_cancel_left same)⟩

/-- A report tells all that has been done. -/
theorem reportOf_injective (options : MoveOptions) (files : List TaggedFile) :
    (reportOf options files).Injective := by
  rintro ⟨_, skipped, removed⟩ ⟨_, omitted, erased⟩ same
  cases (congrArg Report.written same : _ = _)
  let say (count : Nat) : Message :=
    .information ((if options.trialRun then "Would remove " else "Removed ") ++ Nat.repr count ++
      " original(s)")
  let mention (count : Nat) : Message := .warning ("Skipped " ++ Nat.repr count ++ " file(s)")
  have told : counted say removed ++ counted mention skipped =
      counted say erased ++ counted mention omitted :=
    (List.cons.inj (congrArg Report.messages same)).2
  have saying : say.Injective := fun one other equal =>
    Nat.repr_injective (by simpa [say, Message.information] using equal)
  have mentioning : mention.Injective := fun one other equal =>
    Nat.repr_injective (by simpa [mention, Message.warning] using equal)
  have second (count : Nat) : (mention count).kind ≠ .information := by
    rintro ⟨⟩
  rcases counted_append_inj saying mentioning (fun _ => rfl) second told with ⟨rfl, rfl⟩
  rfl

/-- A run makes exactly the deliveries to where nothing is when their turn comes. -/
theorem ensuresUnless_plan_run (gentle : options.force = false) (real : options.trialRun = false)
    (sound : tree.Sound)
    (originals : ∀ file ∈ files, ∃ content, tree.nodeAt? file.location = some (.file content))
    (distinct : files.Pairwise fun file other =>
      lexical tree.here file.location ≠ lexical tree.here other.location) :
    (run options folders files).EnsuresUnless isCopyFailure tree fun result _ =>
      ∀ report, result = .ok report →
        (options.renameOnly = false → (checkOutputs options folders).Ensures tree
          fun result after => result = .ok () ∧ after = tree) ∧
        ∃ plan : Plan, plan.Of options folders files ∧
          report = reportOf options files (plan.tally options ⟨[], 0, 0⟩) ∧
          Follows options tree [] plan.course := by
  unfold run
  apply (ensuresUnless_plan_moveAll gentle real sound originals distinct).bind
  · rintro error after - report ⟨⟩
  · intro tally after planned
    refine (ensures_pure ?_).unless
    rintro report ⟨⟩
    rcases planned tally rfl with ⟨checked, plan, of, rfl, follows⟩
    exact ⟨checked, plan, of, rfl, follows⟩

/--
If a run that overwrites nothing ends, and no copy has failed, its trial run ends as well. What the
one has written, skipped and removed is what the other says iff each delivery that the trial run
decides in the tree as it is would be decided in the same way when its turn comes.
-/
theorem foretold_eq_iff (sound : tree.Sound)
    (originals : ∀ file ∈ files, ∃ content, tree.nodeAt? file.location = some (.file content))
    (distinct : files.Pairwise fun file other =>
      lexical tree.here file.location ≠ lexical tree.here other.location)
    (gentle : options.force = false) (real : options.trialRun = false) {report : Report}
    (done : ((Transfer.run options folders files).performOn tree).value = (.ok report, after))
    (quiet : ∀ event ∈ ((Transfer.run options folders files).performOn tree).log,
      isCopyFailure event = false) :
    ∃ tally foretold, report = reportOf options files tally ∧
      ((Transfer.run (rehearsed options) folders files).performOn tree).value =
        (.ok (reportOf (rehearsed options) files foretold), tree) ∧
      (foretold = tally ↔
        Follows options tree [] (forecast options folders tree files).course) := by
  rw [performOn, Logged.log_bind, Logged.log_pure, List.append_nil] at quiet
  rcases ensuresUnless_plan_run gentle real sound originals distinct quiet with
    ⟨result, last, ended, planned⟩
  rw [performOn, Logged.value_bind, ended] at done
  cases done
  rcases planned report rfl with ⟨checked, plan, of, shape, follows⟩
  rw [← checkOutputs_rehearsed gentle] at checked
  have held : (rehearsed options).force = false := gentle
  have rehearsal : (Transfer.run (rehearsed options) folders files).Ensures tree
      fun result after => result = .ok (reportOf (rehearsed options) files
        ((forecast options folders tree files).tally options ⟨[], 0, 0⟩)) ∧ after = tree := by
    rw [← tally_forecast_rehearsed]
    unfold Transfer.run
    apply (ensures_moveAll_of_trial held rfl files checked).bind
    · rintro error after ⟨⟨⟩, -⟩
    · rintro _ after ⟨⟨⟩, rfl⟩
      exact ensures_pure ⟨rfl, rfl⟩
  rcases rehearsal with ⟨_, _, foretold, rfl, rfl⟩
  refine ⟨_, _, shape, ?_, tally_forecast_eq_iff of follows _⟩
  rw [performOn, Logged.value_bind, foretold]
  rfl

section Tray

/-- Two files in a folder, and another one in the folder that they go to. -/
def tray : FileTree :=
  ⟨[(["i"], .folder), (["i", "a"], .file "x"), (["i", "b"], .file "y"), (["o"], .folder),
    (["o", "d"], .file "z")], [], []⟩

/-- One of the files, with the name that it is going to have. -/
def card (name outputName : String) : TaggedFile :=
  { TaggedFile.undecided name "" "" [] name ⟨"i/" ++ name⟩ with outputName }

theorem sound_tray : tray.Sound :=
  ⟨noLinks_of_entries (by simp [tray]), hasFolder_nil tray⟩

theorem nodeAt?_tray (first second : String) : ∀ file ∈ [card "a" first, card "b" second],
    ∃ content, tray.nodeAt? file.location = some (.file content) := by
  have found : tray.nodeAt? ⟨"i/a"⟩ = some (.file "x") ∧ tray.nodeAt? ⟨"i/b"⟩ = some (.file "y") :=
    ⟨by cbv, by cbv⟩
  simp only [List.forall_mem_cons]
  exact ⟨⟨_, found.1⟩, ⟨_, found.2⟩, by simp⟩

theorem pairwise_tray (first second : String) :
    [card "a" first, card "b" second].Pairwise fun file other =>
      lexical tray.here file.location ≠ lexical tray.here other.location := by
  have places : lexical [] ⟨"i/a"⟩ = ["i", "a"] ∧ lexical [] ⟨"i/b"⟩ = ["i", "b"] :=
    ⟨by cbv, by cbv⟩
  rw [List.pairwise_pair]
  show lexical [] ⟨"i/a"⟩ ≠ lexical [] ⟨"i/b"⟩
  rw [places.1, places.2]
  decide

theorem follows_tray : Follows (gently false) tray []
    (forecast (gently false) [⟨"o"⟩] tray [card "a" "c", card "b" "d"]).course := by
  have course : (forecast (gently false) [⟨"o"⟩] tray [card "a" "c", card "b" "d"]).course =
      [(⟨card "a" "c", ⟨"o"⟩⟩, true), (⟨card "b" "d", ⟨"o"⟩⟩, false)] := by
    cbv
  have places : (Delivery.mk (card "a" "c") ⟨"o"⟩).place [] = ["o", "c"] ∧
      (Delivery.mk (card "b" "d") ⟨"o"⟩).place [] = ["o", "d"] := ⟨by cbv, by cbv⟩
  have source : (Delivery.mk (card "a" "c") ⟨"o"⟩).source [] = ["i", "a"] := by cbv
  have way : (Delivery.mk (card "a" "c") ⟨"o"⟩).way.plainComponents = [.name "o"] := by cbv
  rw [course]
  have vacant : tray.find? ((Delivery.mk (card "a" "c") ⟨"o"⟩).place []) = none := by cbv
  have filled : tray.find? ((Delivery.mk (card "b" "d") ⟨"o"⟩).place []) ≠ none := by
    rw [show tray.find? _ = some (.file "z") by cbv]
    exact Option.some_ne_none _
  refine ⟨⟨fun _ => ?_, fun _ => rfl⟩, ⟨by rintro ⟨⟩, fun free => absurd ?_ free⟩, trivial⟩
  · rintro (⟨found, -⟩ | ⟨rfl | among, along⟩ | ⟨made, -⟩)
    · exact found vacant
    · -- What is on the way has at most one step.
      rcases along with ⟨front, least, leads⟩
      rw [way, List.prefix_cons_iff] at least
      rcases least with rfl | ⟨rest, rfl, inside⟩
      · exact absurd (places.1.symm.trans leads) (List.cons_ne_nil _ _)
      · rw [List.prefix_nil.1 inside] at leads
        exact absurd (places.1.symm.trans leads) (by decide)
    · cases among
    · cases made
  · refine .there filled (.inr ?_)
    rintro ⟨-, earlier, among, -, same⟩
    rw [List.mem_singleton.1 among] at same
    exact absurd (source.symm.trans (same.trans places.2)) (by decide)

/-- Of two files that are moved into a folder, the one whose place is free is written. -/
theorem foretold_eq_iff_tray :
    let files := [card "a" "c", card "b" "d"]
    let done := (Transfer.run (gently false) [⟨"o"⟩] files).performOn tray
    tray.Sound ∧
      (∀ file ∈ files, ∃ content, tray.nodeAt? file.location = some (.file content)) ∧
      (files.Pairwise fun file other =>
        lexical tray.here file.location ≠ lexical tray.here other.location) ∧
      (∀ event ∈ done.log, isCopyFailure event = false) ∧
      done.value.1 = .ok (reportOf (gently false) files ⟨[⟨"o/c"⟩], 0, 1⟩) ∧
      ((Transfer.run (rehearsed (gently false)) [⟨"o"⟩] files).performOn tray).value =
        (.ok (reportOf (rehearsed (gently false)) files ⟨[⟨"o/c"⟩], 0, 1⟩), tray) := by
  intro files done
  have performed : (Transfer.run (gently false) [⟨"o"⟩] files).performOn tray =
      ⟨(.ok (reportOf (gently false) files ⟨[⟨"o/c"⟩], 0, 1⟩),
        ⟨[(["o", "c"], .file "x"), (["i"], .folder), (["i", "b"], .file "y"), (["o"], .folder),
          (["o", "d"], .file "z")], [], []⟩),
        [.moving ⟨"i/a"⟩ ⟨"o/c"⟩, .sourceRemoved ⟨"i/a"⟩, .moving ⟨"i/b"⟩ ⟨"o/d"⟩,
          .targetKept ⟨"o/d"⟩]⟩ := by
    cbv
  have ended := congrArg Logged.value performed
  have quiet : ∀ event ∈ done.log, isCopyFailure event = false := by
    simp [done, performed, isCopyFailure]
  rcases foretold_eq_iff sound_tray (nodeAt?_tray "c" "d") (pairwise_tray "c" "d") rfl rfl ended
    quiet with ⟨tally, foretold, reported, rehearsal, agree⟩
  cases reportOf_injective _ _ reported
  cases agree.2 follows_tray
  exact ⟨sound_tray, nodeAt?_tray "c" "d", pairwise_tray "c" "d", quiet, congrArg Prod.fst ended,
    rehearsal⟩

/-- Of two files that go to one place only the first is written, but the trial run says both. -/
theorem not_foretold_tray :
    let files := [card "a" "c", card "b" "c"]
    tray.NoLinks ∧
      (∀ file ∈ files, ∃ content, tray.nodeAt? file.location = some (.file content)) ∧
      (files.Pairwise fun file other =>
        lexical tray.here file.location ≠ lexical tray.here other.location) ∧
      (gently false).force = false ∧ (gently false).trialRun = false ∧
      ∃ report rehearsal after,
        ((Transfer.run (gently false) [⟨"o"⟩] files).performOn tray).value = (.ok report, after) ∧
        (∀ event ∈ ((Transfer.run (gently false) [⟨"o"⟩] files).performOn tray).log,
          isCopyFailure event = false) ∧
        ((Transfer.run (rehearsed (gently false)) [⟨"o"⟩] files).performOn tray).value =
          (.ok rehearsal, tray) ∧
        report.written = [⟨"o/c"⟩] ∧ rehearsal.written = [⟨"o/c"⟩, ⟨"o/c"⟩] := by
  intro files
  have performed : (Transfer.run (gently false) [⟨"o"⟩] files).performOn tray =
      ⟨(.ok (reportOf (gently false) files ⟨[⟨"o/c"⟩], 0, 1⟩),
        ⟨[(["o", "c"], .file "x"), (["i"], .folder), (["i", "b"], .file "y"), (["o"], .folder),
          (["o", "d"], .file "z")], [], []⟩),
        [.moving ⟨"i/a"⟩ ⟨"o/c"⟩, .sourceRemoved ⟨"i/a"⟩, .moving ⟨"i/b"⟩ ⟨"o/c"⟩,
          .targetKept ⟨"o/c"⟩]⟩ := by
    cbv
  have rehearsal : ((Transfer.run (rehearsed (gently false)) [⟨"o"⟩] files).performOn tray).value =
      (.ok (reportOf (rehearsed (gently false)) files ⟨[⟨"o/c"⟩, ⟨"o/c"⟩], 0, 2⟩), tray) := by
    cbv
  refine ⟨sound_tray.noLinks, nodeAt?_tray "c" "c", pairwise_tray "c" "c", rfl, rfl, _, _, _,
    congrArg Logged.value performed, ?_, rehearsal, rfl, rfl⟩
  rw [performed]
  simp [isCopyFailure]

end Tray

end Transfer

end TagOrganizer
