import Mathlib
import TagOrganizer.Proofs.Renaming.Decided
import TagOrganizer.Proofs.Renaming.Producers

/-!
# Destinations are named apart

Files with one destination are named as if they were alone, whatever else is in their batch
(`ends_name_filter`). The whole batch and the files of one destination are named side by side: a
file that goes elsewhere leaves these files and what is recorded for their destination alone, and a
file that goes there is named in the same way in both. The place that is recorded for a name is that
of a file with the same destination, so naming this file again stays within the destination.
-/

namespace TagOrganizer

/-- Whether a file goes to a destination. -/
def TaggedFile.goesTo (destination : Path) (file : TaggedFile) : Bool :=
  file.destination.sameAs destination

theorem TaggedFile.goesTo_given (destination : Path) (name : String) (file : TaggedFile) :
    (file.given name).goesTo destination = file.goesTo destination := by
  rw [goesTo, destination_given, goesTo]

theorem TaggedFile.filter_append_given {destination : Path} {file : TaggedFile}
    (goes : file.goesTo destination = true) (files : List TaggedFile) (name : String) :
    (files ++ [file.given name]).filter (goesTo destination) =
      files.filter (goesTo destination) ++ [file.given name] := by
  simp [List.filter_append, goesTo_given, goes]

namespace Naming

variable {format name : String} {resolver : Resolver} {first destination : Path}
  {earlier renamed : List TaggedFile}

/-- Among the files of a destination the first file of a name is found as among all files. -/
theorem result_renameFirst_filter
    (there : ∀ file ∈ earlier, file.location.sameAs first = true →
      file.goesTo destination = true)
    (ended : (renameFirst format name resolver first earlier).result = .ok renamed) :
    (renameFirst format name resolver first
      (earlier.filter (TaggedFile.goesTo destination))).result =
      .ok (renamed.filter (TaggedFile.goesTo destination)) := by
  induction earlier generalizing renamed with
  | nil =>
      cases ended
      rfl
  | cons file files ih =>
      have inside : ∀ other ∈ files, other.location.sameAs first = true →
          other.goesTo destination = true :=
        fun other present => there other (by simp [present])
      rw [result_renameFirst_cons] at ended
      split at ended
      · rename_i here
        rcases Except.map_eq_ok_iff.1 ended with ⟨number, numbered, rfl⟩
        have goes := there file (by simp) here
        rw [List.filter_cons_of_pos goes, List.filter_cons_of_pos (by rwa [file.goesTo_given]),
          result_renameFirst_cons, if_pos here, numbered]
        rfl
      · rename_i elsewhere
        rcases Except.map_eq_ok_iff.1 ended with ⟨others, further, rfl⟩
        cases goes : file.goesTo destination with
        | true =>
            rw [List.filter_cons_of_pos goes, List.filter_cons_of_pos goes,
              result_renameFirst_cons, if_neg elsewhere, ih inside further]
            rfl
        | false =>
            rw [List.filter_cons_of_neg (by simp [goes]), List.filter_cons_of_neg (by simp [goes])]
            exact ih inside further

/-- Naming a file again does not touch the files of other destinations. -/
theorem filter_renameFirst
    (elsewhere : ∀ file ∈ earlier, file.location.sameAs first = true →
      file.goesTo destination = false)
    (ended : (renameFirst format name resolver first earlier).result = .ok renamed) :
    renamed.filter (TaggedFile.goesTo destination) =
      earlier.filter (TaggedFile.goesTo destination) := by
  rcases result_renameFirst ended with ⟨rfl, -⟩ | ⟨front, file, back, number, rfl, there, -, rfl⟩
  · rfl
  · have leaves := elsewhere file (by simp) there
    simp [List.filter_append, TaggedFile.goesTo_given, leaves]

end Naming

namespace Batch

variable {batch : Batch} {destination : Path} {ledger after own : Ledger}
  {front rest earlier named outcomes : List TaggedFile} {file outcome : TaggedFile}

/--
What holds while a batch and its files of one destination are named side by side. `earlier` has
become of the files `front` of the batch, and the files of the destination among it have become of
those among `front`; the two ledgers agree about the destination.
-/
structure Apart (batch : Batch) (destination : Path) (front earlier : List TaggedFile)
    (ledger own : Ledger) : Prop where
  decided : List.Forall₂ TaggedFile.Decided front earlier
  records : ledger.Records (front.map (Prod.mk batch))
  agree : ∀ name, own.find? destination name = ledger.find? destination name

theorem exists_mem_of_forall₂_decided (decided : List.Forall₂ TaggedFile.Decided front earlier)
    (inside : outcome ∈ earlier) : ∃ file ∈ front, file.Decided outcome := by
  induction decided with
  | nil => cases inside
  | @cons file _ _ _ here _ ih =>
      rcases List.mem_cons.1 inside with rfl | later
      · exact ⟨file, by simp, here⟩
      · rcases ih later with ⟨other, present, decided⟩
        exact ⟨other, by simp [present], decided⟩

namespace Apart

variable (apart : batch.Apart destination front earlier ledger own)
  (distinct : front.Pairwise fun left right => left.location.sameAs right.location = false)

include apart distinct

/-- The place that is recorded for a name is that of a file with the same destination. -/
theorem goesTo_of_sameAs {name : String} {produced : ProducedName}
    (found : ledger.find? file.destination name = some produced) :
    ∀ outcome ∈ earlier, outcome.location.sameAs produced.first = true →
      outcome.goesTo destination = file.goesTo destination := by
  intro outcome inside there
  rcases exists_mem_of_forall₂_decided apart.decided inside with ⟨other, present, decided⟩
  rw [decided.location_eq] at there
  have produces : batch.produces file.destination name other = true :=
    apart.records.produces_of_sameAs (List.pairwise_map.2 distinct) found
      (List.mem_map_of_mem present) there
  rcases exists_product?_of_produces produces with ⟨_, -, same⟩
  rw [TaggedFile.goesTo, decided.destination_eq, Path.sameAs_congr_left same, TaggedFile.goesTo]

/-- A file that goes elsewhere leaves the destination alone. -/
theorem elsewhere (goes : file.goesTo destination = false)
    (step : batch.Named ledger earlier file named after) :
    batch.Apart destination (front ++ [file]) named after own ∧
      named.filter (TaggedFile.goesTo destination) =
        earlier.filter (TaggedFile.goesTo destination) := by
  have different (name other : String) :
      ¬(file.destination.sameAs destination = true ∧ name = other) := by
    rintro ⟨same, -⟩
    rw [TaggedFile.goesTo, same] at goes
    cases goes
  have agree : ∀ name, after.find? destination name = ledger.find? destination name := by
    intro other
    cases step with
    | unproduced _ => rfl
    | first _ _ => rw [Ledger.find?_addFirst, if_neg (different _ _)]
    | later _ _ _ _ _ =>
        rw [Ledger.find?_count]
        simp only [if_neg (different _ _), Option.map_id']
  refine ⟨⟨forall₂_decided_of_named apart.decided step, ?_, ?_⟩, ?_⟩
  · simpa using apart.records.named step
  · intro name
    rw [agree, apart.agree]
  · cases step with
    | unproduced _ =>
        have leaves (failed : Bool) :
            TaggedFile.goesTo destination { file with renameFailed := failed } = false := goes
        simp [List.filter_append, leaves]
    | first _ _ => simp [List.filter_append, TaggedFile.goesTo_given, goes]
    | @later format name number produced renamed _ found second further _ =>
        -- The file that is named again goes to the same destination, so also elsewhere.
        have kept : renamed.filter (TaggedFile.goesTo destination) =
            earlier.filter (TaggedFile.goesTo destination) := by
          by_cases lone : produced.occurrences = 1
          · refine Naming.filter_renameFirst ?_ (second lone)
            intro outcome inside there
            rw [apart.goesTo_of_sameAs distinct found outcome inside there, goes]
          · rw [further lone]
        simp [List.filter_append, TaggedFile.goesTo_given, goes, kept]

/-- A file that goes to the destination is named alike among its files and in the whole batch. -/
theorem here (goes : file.goesTo destination = true)
    (ended : (Naming.nameFile batch.namer batch.resolver batch.options earlier file).ends ledger =
      (.ok named, after)) :
    ∃ next, batch.Apart destination (front ++ [file]) named after next ∧
      (Naming.nameFile batch.namer batch.resolver batch.options
        (earlier.filter (TaggedFile.goesTo destination)) file).ends own =
        (.ok (named.filter (TaggedFile.goesTo destination)), next) := by
  have step := named_of_ends_nameFile ended
  have decided := forall₂_decided_of_named apart.decided step
  have records : after.Records ((front ++ [file]).map (Prod.mk batch)) := by
    simpa using apart.records.named step
  -- The file is looked up in both ledgers by its own destination, which may be written otherwise.
  have looked (name : String) :
      own.find? file.destination name = ledger.find? file.destination name := by
    rw [own.find?_congr goes, ledger.find?_congr goes, apart.agree]
  simp only [ends_nameFile_eq_ok_iff] at ended ⊢
  rcases ended with ⟨failed, kept, rfl, rfl⟩ | ⟨produces, -⟩
  · have goesOn : TaggedFile.goesTo destination { file with renameFailed := failed } = true := goes
    exact ⟨own, ⟨decided, records, apart.agree⟩,
      .inl ⟨failed, kept, by simp [List.filter_append, goesOn], rfl⟩⟩
  · cases step with
    | unproduced nothing =>
        rw [nothing] at produces
        cases produces
    | @first format name product fresh =>
        refine ⟨own.addFirst file.destination name file.location, ⟨decided, records, ?_⟩,
          .inr ⟨produces, ?_⟩⟩
        · intro other
          rw [Ledger.find?_addFirst, Ledger.find?_addFirst, apart.agree]
        · rw [TaggedFile.filter_append_given goes]
          exact .first product (by rw [looked, fresh])
    | @later format name number produced renamed product found second further numbered =>
        refine ⟨own.count file.destination name, ⟨decided, records, ?_⟩, .inr ⟨produces, ?_⟩⟩
        · intro other
          rw [Ledger.find?_count, Ledger.find?_count, apart.agree]
        · rw [TaggedFile.filter_append_given goes]
          refine .later product (by rw [looked, found]) ?_ ?_ numbered
          · intro lone
            refine Naming.result_renameFirst_filter ?_ (second lone)
            intro outcome inside there
            rw [apart.goesTo_of_sameAs distinct found outcome inside there, goes]
          · intro alone
            rw [further alone]

end Apart

theorem Apart.run (apart : batch.Apart destination front earlier ledger own)
    (distinct : (front ++ rest).Pairwise fun left right =>
      left.location.sameAs right.location = false)
    (ended : (Naming.nameAll batch.namer batch.resolver batch.options earlier rest).ends ledger =
      (.ok outcomes, after)) :
    ∃ next, batch.Apart destination (front ++ rest) outcomes after next ∧
      (Naming.nameAll batch.namer batch.resolver batch.options
        (earlier.filter (TaggedFile.goesTo destination))
        (rest.filter (TaggedFile.goesTo destination))).ends own =
        (.ok (outcomes.filter (TaggedFile.goesTo destination)), next) := by
  induction rest generalizing front earlier ledger own with
  | nil =>
      cases ended
      exact ⟨own, by simpa using apart, rfl⟩
  | cons file rest ih =>
      rw [Naming.nameAll, Act.ends_bind_eq_ok_iff] at ended
      rcases ended with ⟨named, between, step, ended⟩
      have frontDistinct := (List.pairwise_append.1 distinct).1
      have whole : front ++ file :: rest = front ++ [file] ++ rest := by simp
      rw [whole] at distinct ⊢
      cases goes : file.goesTo destination with
      | true =>
          rcases apart.here frontDistinct goes step with ⟨middle, apartNow, stepThere⟩
          rcases ih apartNow distinct ended with ⟨next, apartThen, endedThere⟩
          refine ⟨next, apartThen, ?_⟩
          rw [List.filter_cons_of_pos goes, Naming.nameAll, Act.ends_bind_eq_ok_iff]
          exact ⟨_, _, stepThere, endedThere⟩
      | false =>
          rcases apart.elsewhere frontDistinct goes (named_of_ends_nameFile step) with
            ⟨apartNow, unchanged⟩
          rcases ih apartNow distinct ended with ⟨next, apartThen, endedThere⟩
          refine ⟨next, apartThen, ?_⟩
          rwa [List.filter_cons_of_neg (by simp [goes]), ← unchanged]

/--
Destinations do not interfere. In a batch that starts from the empty ledger, what becomes of the
files of a destination, and how often each name is produced there, is what it would be if the batch
had no other files.
-/
theorem ends_name_filter
    (distinct : batch.files.Pairwise fun left right =>
      left.location.sameAs right.location = false)
    (ended : batch.name.ends Ledger.empty = (.ok outcomes, ledger)) :
    List.Forall₂ TaggedFile.Decided batch.files outcomes ∧
      ∀ destination, ∃ own,
        ({ batch with files := batch.files.filter (TaggedFile.goesTo destination) } :
            Batch).name.ends Ledger.empty =
          (.ok (outcomes.filter (TaggedFile.goesTo destination)), own) ∧
        ∀ name, own.occurrences destination name = ledger.occurrences destination name := by
  refine ⟨forall₂_decided_of_ends_name ended, ?_⟩
  intro destination
  rw [ends_name_empty] at ended
  have start : batch.Apart destination [] [] Ledger.empty Ledger.empty :=
    ⟨.nil, fun _ _ => rfl, fun _ => rfl⟩
  rcases start.run distinct ended with ⟨own, apart, there⟩
  refine ⟨own, ?_, ?_⟩
  · rw [ends_name_empty]
    exact there
  · intro name
    unfold Ledger.occurrences
    rw [apart.agree]

section Errands

/-- A file without tags that is called `x` and goes to a folder. -/
def errand (location destination : Path) : TaggedFile :=
  { TaggedFile.undecided "x" "" "" [] "x" location with destination }

/-- Two files each for two folders, one of which is written in two ways. -/
def errands : Batch where
  namer := ⟨[⟨⟨[⟨[.all]⟩]⟩, "a/ITER| /#|/EITER|"⟩], []⟩
  resolver := GroupTable.empty.resolver
  options := ⟨true, false, false⟩
  files := [errand ⟨"1"⟩ ⟨"p"⟩, errand ⟨"2"⟩ ⟨"q"⟩, errand ⟨"3"⟩ ⟨"p/."⟩, errand ⟨"4"⟩ ⟨"q"⟩]

/-- The files of one folder are numbered as if there was no other folder. -/
theorem ends_name_filter_errands :
    let outcomes := [{ errand ⟨"1"⟩ ⟨"p"⟩ with outputName := "a 1" },
      { errand ⟨"2"⟩ ⟨"q"⟩ with outputName := "a 1" },
      { errand ⟨"3"⟩ ⟨"p/."⟩ with outputName := "a 2" },
      { errand ⟨"4"⟩ ⟨"q"⟩ with outputName := "a 2" }]
    let ledger : Ledger := ⟨[⟨⟨"q"⟩, "a", 2, ⟨"2"⟩⟩, ⟨⟨"p"⟩, "a", 2, ⟨"1"⟩⟩]⟩
    let alone := [errand ⟨"1"⟩ ⟨"p"⟩, errand ⟨"3"⟩ ⟨"p/."⟩]
    (errands.files.Pairwise fun left right => left.location.sameAs right.location = false) ∧
      errands.name.ends Ledger.empty = (.ok outcomes, ledger) ∧
      errands.files.filter (TaggedFile.goesTo ⟨"p"⟩) = alone ∧
      ∃ own, ({ errands with files := alone } : Batch).name.ends Ledger.empty =
          (.ok [{ errand ⟨"1"⟩ ⟨"p"⟩ with outputName := "a 1" },
            { errand ⟨"3"⟩ ⟨"p/."⟩ with outputName := "a 2" }], own) ∧
        own.occurrences ⟨"p"⟩ "a" = 2 := by
  intro outcomes ledger alone
  have distinct : errands.files.Pairwise fun left right =>
      left.location.sameAs right.location = false := of_decide_eq_true (by cbv)
  have ended : errands.name.ends Ledger.empty = (.ok outcomes, ledger) := by cbv
  have there : errands.files.filter (TaggedFile.goesTo ⟨"p"⟩) = alone := by cbv
  have kept : outcomes.filter (TaggedFile.goesTo ⟨"p"⟩) =
      [{ errand ⟨"1"⟩ ⟨"p"⟩ with outputName := "a 1" },
        { errand ⟨"3"⟩ ⟨"p/."⟩ with outputName := "a 2" }] := by cbv
  have counted : ledger.occurrences ⟨"p"⟩ "a" = 2 := by cbv
  rcases (ends_name_filter distinct ended).2 ⟨"p"⟩ with ⟨own, named, counts⟩
  rw [there, kept] at named
  exact ⟨distinct, ended, there, own, named, by rw [counts, counted]⟩

end Errands

end Batch

end TagOrganizer
