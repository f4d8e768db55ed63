import TagOrganizer.Proofs.Renaming.Producers
import TagOrganizer.Proofs.Template.Result

/-!
# Progress in a batch

While a batch is named the ledger records all files so far, and each of them that produces a name is
settled by its rank among the producers (`Progress`). What has been decided for a file stays, except
for the first file of a name when the second one comes in the same batch.
-/

namespace TagOrganizer

/-- What is decided for a file by its rank and whether its name is produced again in its batch. -/
def Batch.Settled (batch : Batch) (rank : Nat) (again : Bool) (format name : String)
    (file outcome : TaggedFile) : Prop :=
  if 2 ≤ rank then
    ∃ number, (Template.nameNumbered format rank file batch.resolver).result = .ok number ∧
      outcome = file.given number
  else if again then
    ∃ number, (Template.nameNumbered format 1 file batch.resolver).result = .ok number ∧
      outcome = (file.given name).given number
  else outcome = file.given name

namespace Batch

variable {batch : Batch} {before : List Entry} {front outcomes renamed : List TaggedFile}
  {ledger after : Ledger} {file outcome : TaggedFile} {format name : String}

/--
What holds after some files of a batch have been named: the ledger records all files up to here,
and each file of the batch that produces a name is settled.
-/
structure Progress (batch : Batch) (before : List Entry) (front outcomes : List TaggedFile)
    (ledger : Ledger) : Prop where
  records : ledger.Records (before ++ front.map (Prod.mk batch))
  located : outcomes.map TaggedFile.location = front.map TaggedFile.location
  settled : ∀ left file right format name, front = left ++ file :: right →
    batch.product? file = some (format, name) →
    ∃ outcome, outcomes[left.length]? = some outcome ∧
      batch.Settled
        ((producers file.destination name (before ++ left.map (Prod.mk batch))).length + 1)
        (right.any (batch.produces file.destination name)) format name file outcome

theorem split_append_singleton {left right : List TaggedFile} {last : TaggedFile}
    (equal : front ++ [last] = left ++ file :: right) :
    (left = front ∧ file = last ∧ right = []) ∨
      ∃ rest, right = rest ++ [last] ∧ front = left ++ file :: rest := by
  rcases List.eq_nil_or_concat' right with rfl | ⟨rest, other, rfl⟩
  · rcases List.append_inj' equal rfl with ⟨rfl, tail⟩
    cases tail
    exact .inl ⟨rfl, rfl, rfl⟩
  · rw [← List.cons_append, ← List.append_assoc] at equal
    rcases List.append_inj' equal rfl with ⟨rfl, tail⟩
    cases tail
    exact .inr ⟨rest, rfl, rfl⟩

/-- The invariant goes on to the next file if each file so far is settled with it in mind. -/
theorem Progress.extend (progress : batch.Progress before front outcomes ledger)
    (records : after.Records (before ++ front.map (Prod.mk batch) ++ [(batch, file)]))
    (located : renamed.map TaggedFile.location = front.map TaggedFile.location)
    (there : outcome.location = file.location)
    (kept : ∀ left other rest format name decided, front = left ++ other :: rest →
      batch.product? other = some (format, name) → outcomes[left.length]? = some decided →
      batch.Settled
        ((producers other.destination name (before ++ left.map (Prod.mk batch))).length + 1)
        (rest.any (batch.produces other.destination name)) format name other decided →
      ∃ now, renamed[left.length]? = some now ∧
        batch.Settled
          ((producers other.destination name (before ++ left.map (Prod.mk batch))).length + 1)
          (rest.any (batch.produces other.destination name) ||
            batch.produces other.destination name file) format name other now)
    (new : ∀ format name, batch.product? file = some (format, name) →
      batch.Settled
        ((producers file.destination name (before ++ front.map (Prod.mk batch))).length + 1)
        false format name file outcome) :
    batch.Progress before (front ++ [file]) (renamed ++ [outcome]) after where
  records := by simpa using records
  located := by simp [located, there]
  settled := by
    have length : renamed.length = front.length := by
      simpa using congrArg List.length located
    intro left other right format name equal product
    rcases split_append_singleton equal with ⟨rfl, rfl, rfl⟩ | ⟨rest, rfl, rfl⟩
    · refine ⟨outcome, ?_, new format name product⟩
      rw [← length, List.getElem?_append_right (Nat.le_refl _)]
      simp
    · rcases progress.settled left other rest format name rfl product with ⟨decided, at_, settled⟩
      rcases kept left other rest format name decided rfl product at_ settled with
        ⟨now, nowAt, resettled⟩
      refine ⟨now, ?_, ?_⟩
      · rw [List.getElem?_append_left, nowAt]
        rw [length]
        simp
      · simpa using resettled

theorem Progress.unproduced (progress : batch.Progress before front outcomes ledger)
    (nothing : batch.product? file = none) (failed : Bool) :
    batch.Progress before (front ++ [file]) (outcomes ++ [{ file with renameFailed := failed }])
      ledger := by
  refine progress.extend (progress.records.unproduced nothing) progress.located rfl ?_ ?_
  · intro left other rest format name decided _ _ at_ settled
    rw [produces_of_none nothing, Bool.or_false]
    exact ⟨decided, at_, settled⟩
  · intro format name product
    rw [nothing] at product
    cases product

theorem Progress.first (progress : batch.Progress before front outcomes ledger)
    (product : batch.product? file = some (format, name))
    (fresh : ledger.find? file.destination name = none) :
    batch.Progress before (front ++ [file]) (outcomes ++ [file.given name])
      (ledger.addFirst file.destination name file.location) := by
  have alone := progress.records.producers_eq_nil fresh
  refine progress.extend (progress.records.addFirst product fresh) progress.located
    (TaggedFile.location_given _ _) ?_ ?_
  · intro left other rest format' name' decided shape product' at_ settled
    have different : batch.produces other.destination name' file = false := by
      rw [← Bool.not_eq_true, produces_iff product]
      rintro ⟨same, rfl⟩
      have present : (batch, other) ∈
          producers file.destination name (before ++ front.map (Prod.mk batch)) := by
        refine List.mem_filter.2 ⟨by simp [shape], ?_⟩
        rw [produces_congr same]
        exact produces_self product'
      rw [alone] at present
      cases present
    rw [different, Bool.or_false]
    exact ⟨decided, at_, settled⟩
  · intro format' name' product'
    rw [product] at product'
    cases product'
    rw [alone]
    rfl

/-- What is decided about the name of a file does not change its number. -/
theorem nameNumbered_given (format other : String) (number : Nat) (file : TaggedFile)
    (resolver : Resolver) :
    Template.nameNumbered format number (file.given other) resolver =
      Template.nameNumbered format number file resolver := by
  unfold TaggedFile.given
  split
  · exact Template.nameNumbered_decided file file.outputName true resolver format number
  · exact Template.nameNumbered_decided file other false resolver format number

section Later

variable {produced : ProducedName}

theorem located_of_renameFirst {first : Path}
    (again : (Naming.renameFirst format name batch.resolver first outcomes).result =
      .ok renamed) :
    renamed.map TaggedFile.location = outcomes.map TaggedFile.location := by
  rcases Naming.result_renameFirst again with ⟨rfl, -⟩ | ⟨front, found, back, number, rfl, rest⟩
  · rfl
  · rcases rest with ⟨-, -, rfl⟩
    simp

theorem getElem?_renameFirst {first : Path} {position : Nat} {decided : TaggedFile}
    (again : (Naming.renameFirst format name batch.resolver first outcomes).result = .ok renamed)
    (at_ : outcomes[position]? = some decided)
    (elsewhere : decided.location.sameAs first = false) : renamed[position]? = some decided := by
  rcases Naming.result_renameFirst again with ⟨rfl, -⟩ | ⟨front, found, back, number, rfl, rest⟩
  · exact at_
  · rcases rest with ⟨there, -, rfl⟩
    rcases Nat.lt_trichotomy position front.length with less | rfl | greater
    · rwa [List.getElem?_append_left less] at at_ ⊢
    · simp only [Nat.le_refl, List.getElem?_append_right, Nat.sub_self, List.getElem?_cons_zero,
        Option.some.injEq] at at_
      rw [at_, elsewhere] at there
      cases there
    · rw [List.getElem?_append_right (by omega)] at at_ ⊢
      rcases Nat.exists_eq_add_of_lt greater with ⟨distance, rfl⟩
      have shape : front.length + distance + 1 - front.length = distance + 1 := by omega
      rw [shape, List.getElem?_cons_succ] at at_ ⊢
      exact at_

theorem getElem?_renameFirst_self {first : Path} {position : Nat} {decided : TaggedFile}
    (distinct : (outcomes.map TaggedFile.location).Pairwise fun left right =>
      left.sameAs right = false)
    (again : (Naming.renameFirst format name batch.resolver first outcomes).result = .ok renamed)
    (at_ : outcomes[position]? = some decided)
    (here : decided.location.sameAs first = true) :
    ∃ number, (Template.nameNumbered format 1 decided batch.resolver).result = .ok number ∧
      renamed[position]? = some (decided.given number) := by
  rcases Naming.result_renameFirst again with
    ⟨rfl, elsewhere⟩ | ⟨front, found, back, number, rfl, rest⟩
  · have different := elsewhere decided (List.mem_of_getElem? at_)
    rw [here] at different
    cases different
  · rcases rest with ⟨there, numbered, rfl⟩
    have foundAt : (front ++ found :: back)[front.length]? = some found := by simp
    have equal : position = front.length := by
      have decidedAt := congrArg (Option.map TaggedFile.location) at_
      have locatedAt := congrArg (Option.map TaggedFile.location) foundAt
      rw [← List.getElem?_map] at decidedAt locatedAt
      apply index_eq_of_sameAs distinct decidedAt locatedAt
      rwa [Path.sameAs_congr_left here, Path.sameAs_comm]
    rw [equal, foundAt, Option.some.injEq] at at_
    subst at_
    exact ⟨number, numbered, by simp [equal]⟩

theorem any_produces_eq (destination : Path) (name : String) (files : List TaggedFile) :
    files.any (batch.produces destination name) =
      !(producers destination name (files.map (Prod.mk batch))).isEmpty := by
  rw [Bool.eq_iff_iff, List.any_eq_true]
  simp [producers, List.filter_eq_nil_iff]

theorem Progress.location_eq (progress : batch.Progress before front outcomes ledger)
    {left rest : List TaggedFile} {other decided : TaggedFile}
    (shape : front = left ++ other :: rest) (at_ : outcomes[left.length]? = some decided) :
    decided.location = other.location := by
  have located := congrArg (fun paths => paths[left.length]?) progress.located
  simpa [shape, at_] using located

variable (progress : batch.Progress before front outcomes ledger)
  (regular : Regular (before ++ front.map (Prod.mk batch)))
  (found : ledger.find? file.destination name = some produced)
  (second : produced.occurrences = 1 →
    (Naming.renameFirst format name batch.resolver produced.first outcomes).result = .ok renamed)
  (further : produced.occurrences ≠ 1 → renamed = outcomes)
  {left rest : List TaggedFile} {other decided : TaggedFile}
  (shape : front = left ++ other :: rest) (at_ : outcomes[left.length]? = some decided)

include progress regular found second further shape at_

theorem Progress.getElem?_of_different
    (different : batch.produces file.destination name other = false) :
    renamed[left.length]? = some decided := by
  by_cases lone : produced.occurrences = 1
  · apply getElem?_renameFirst (second lone) at_
    rw [progress.location_eq shape at_, ← Bool.not_eq_true]
    intro same
    have inside : (batch, other) ∈ before ++ front.map (Prod.mk batch) := by simp [shape]
    have produces : batch.produces file.destination name other = true :=
      progress.records.produces_of_sameAs regular.distinct found inside same
    rw [different] at produces
    cases produces
  · rwa [further lone]

/-- A file of the same name is settled again: only the first one is named as occurrence 1. -/
theorem Progress.settled_of_same
    (same : batch.produces file.destination name other = true)
    (settled : batch.Settled
      ((producers file.destination name (before ++ left.map (Prod.mk batch))).length + 1)
      (rest.any (batch.produces file.destination name)) format name other decided) :
    ∃ now, renamed[left.length]? = some now ∧
      batch.Settled
        ((producers file.destination name (before ++ left.map (Prod.mk batch))).length + 1)
        true format name other now := by
  rcases progress.records.producers_eq_cons found with ⟨first, others, listed, counted, there⟩
  have split : producers file.destination name (before ++ front.map (Prod.mk batch)) =
      producers file.destination name (before ++ left.map (Prod.mk batch)) ++
        (batch, other) :: producers file.destination name (rest.map (Prod.mk batch)) := by
    rw [shape, List.map_append, List.map_cons, ← List.append_assoc,
      producers_append file.destination name (before ++ _), producers_cons, if_pos same]
  rw [any_produces_eq] at settled
  cases earlier : producers file.destination name (before ++ left.map (Prod.mk batch)) with
  | cons head tail =>
      have further := further (by
        rw [listed, earlier] at split
        have lengths := congrArg List.length split
        simp at lengths
        omega)
      rw [earlier] at settled
      refine ⟨decided, by rw [further, at_], ?_⟩
      rw [Settled, if_pos (by simp)] at settled ⊢
      exact settled
  | nil =>
      rw [earlier, listed, List.nil_append, List.cons.injEq] at split
      rw [earlier] at settled
      rcases split with ⟨rfl, later⟩
      cases others with
      | nil =>
          rw [← later] at settled
          have distinct : (outcomes.map TaggedFile.location).Pairwise fun left right =>
              left.sameAs right = false := by
            have within := (List.pairwise_append.1 regular.distinct).2.1
            rw [progress.located]
            rw [List.pairwise_map] at within ⊢
            exact within
          rcases getElem?_renameFirst_self distinct (second counted) at_ (by
            rw [progress.location_eq shape at_, there]
            exact Path.sameAs_iff.2 rfl) with ⟨number, numbered, now⟩
          have alone : decided = other.given name := settled
          rw [alone, nameNumbered_given] at numbered
          refine ⟨_, now, ?_⟩
          rw [alone]
          exact ⟨number, numbered, rfl⟩
      | cons head tail =>
          rw [← later] at settled
          refine ⟨decided, ?_, settled⟩
          rw [further (by simp [counted]), at_]

end Later

theorem Progress.later (progress : batch.Progress before front outcomes ledger)
    (regular : Regular (before ++ front.map (Prod.mk batch) ++ [(batch, file)]))
    (product : batch.product? file = some (format, name)) {produced : ProducedName}
    {number : String} (found : ledger.find? file.destination name = some produced)
    (second : produced.occurrences = 1 →
      (Naming.renameFirst format name batch.resolver produced.first outcomes).result =
        .ok renamed)
    (further : produced.occurrences ≠ 1 → renamed = outcomes)
    (numbered : (Template.nameNumbered format (produced.occurrences + 1) file
      batch.resolver).result = .ok number) :
    batch.Progress before (front ++ [file]) (renamed ++ [file.given number])
      (ledger.count file.destination name) := by
  have located : renamed.map TaggedFile.location = front.map TaggedFile.location := by
    rw [← progress.located]
    by_cases lone : produced.occurrences = 1
    · exact located_of_renameFirst (second lone)
    · rw [further lone]
  refine progress.extend (progress.records.count product found) located
    (TaggedFile.location_given _ _) ?_ ?_
  · intro left other rest format' name' decided shape product' at_ settled
    cases same : batch.produces file.destination name other with
    | true =>
        rcases (produces_iff product').1 same with ⟨equal, rfl⟩
        have uniform : format' = format :=
          regular.uniform (batch, other) (by simp [shape]) (batch, file) (by simp) format' format
            name' product' product equal
        have produces : batch.produces other.destination name' file = true := by
          rw [produces_congr equal]
          exact produces_self product
        have everywhere : batch.produces other.destination name' =
            batch.produces file.destination name' :=
          funext fun each => produces_congr equal name' each
        rw [uniform, producers_congr equal, everywhere] at settled
        rw [produces, Bool.or_true, uniform, producers_congr equal]
        exact progress.settled_of_same regular.left found second further shape at_ same settled
    | false =>
        have different : batch.produces other.destination name' file = false := by
          rw [← Bool.not_eq_true, produces_iff product]
          rintro ⟨equal, rfl⟩
          rw [Path.sameAs_comm] at equal
          rw [(produces_iff product').2 ⟨equal, rfl⟩] at same
          cases same
        rw [different, Bool.or_false]
        exact ⟨decided,
          progress.getElem?_of_different regular.left found second further shape at_ same, settled⟩
  · intro format' name' product'
    rw [product] at product'
    cases product'
    rcases progress.records.producers_eq_cons found with ⟨first, others, listed, counted, -⟩
    rw [listed, List.length_cons, ← counted, Settled, if_pos (by omega)]
    exact ⟨number, numbered, rfl⟩

theorem Progress.step (progress : batch.Progress before front outcomes ledger)
    (regular : Regular (before ++ front.map (Prod.mk batch) ++ [(batch, file)]))
    {named : List TaggedFile} (step : batch.Named ledger outcomes file named after) :
    batch.Progress before (front ++ [file]) named after := by
  cases step with
  | unproduced nothing => exact progress.unproduced nothing _
  | first product fresh => exact progress.first product fresh
  | later product found second further numbered =>
      exact progress.later regular product found second further numbered

/-- Naming the files of a batch in their order keeps the invariant. -/
theorem Progress.run {rest named : List TaggedFile}
    (progress : batch.Progress before front outcomes ledger)
    (regular : Regular (before ++ (front ++ rest).map (Prod.mk batch)))
    (ended : (Naming.nameAll batch.namer batch.resolver batch.options outcomes rest).ends ledger =
      (.ok named, after)) :
    batch.Progress before (front ++ rest) named after := by
  induction rest generalizing front outcomes ledger with
  | nil =>
      rw [Naming.nameAll, Act.ends_pure, Prod.mk.injEq, Except.ok.injEq] at ended
      rcases ended with ⟨rfl, rfl⟩
      rwa [List.append_nil]
  | cons file rest ih =>
      rw [Naming.nameAll] at ended
      rcases Act.ends_bind_eq_ok_iff.1 ended with ⟨middle, between, step, ended⟩
      have whole : Regular (before ++ front.map (Prod.mk batch) ++ [(batch, file)] ++
          rest.map (Prod.mk batch)) := by
        simpa using regular
      have next := ih (progress.step whole.left (named_of_ends_nameFile step))
        (by simpa using regular) ended
      simpa using next

/-- Naming a batch settles its files and records them after those before them. -/
theorem progress_of_ends_name {named : List TaggedFile}
    (kept : batch.options.clearOccurrences = false) (records : ledger.Records before)
    (regular : Regular (before ++ batch.files.map (Prod.mk batch)))
    (ended : batch.name.ends ledger = (.ok named, after)) :
    batch.Progress before batch.files named after := by
  unfold name Naming.nameBatch at ended
  rw [kept] at ended
  have start : batch.Progress before [] [] ledger :=
    ⟨by simpa using records, rfl, by simp⟩
  exact start.run regular ended

end Batch

end TagOrganizer
