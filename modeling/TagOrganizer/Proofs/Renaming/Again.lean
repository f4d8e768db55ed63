import TagOrganizer.Proofs.Renaming.Producers
import TagOrganizer.Proofs.Template.Result

/-!
# Files that are named again

While a batch is named, an earlier file of it may be named again: when the second file of a name
comes, and the first one is recorded to be where the earlier file is. What is recorded depends on
the ledger at the start and on the files alone (`Keeps.step`). What holds of each file when it is
named, and is kept when it is named again, holds in the end (`fits_of_ends_name`).
-/

namespace TagOrganizer

namespace Batch

/-- The ledger with which naming a batch begins. -/
def startFrom (batch : Batch) (ledger : Ledger) : Ledger :=
  if batch.options.clearOccurrences then .empty else ledger

/--
What is recorded about a name after some files of a batch: how often it has been produced, counted
on from the start, and where the first of the files that produced it was found.
-/
def recorded? (batch : Batch) (start : Ledger) (front : List TaggedFile) (destination : Path)
    (name : String) : Option (Nat × Path) :=
  let count := front.countP (batch.produces destination name)
  match start.find? destination name with
  | some former => some (former.occurrences + count, former.first)
  | none =>
      (front.find? (batch.produces destination name)).map fun first => (count, first.location)

/--
Whether a file is named again as occurrence 1 of a name when the file at a later position comes:
that file is the second one to produce the name, and the first one is recorded to be where the file
is.
-/
def NamesAgain (batch : Batch) (start : Ledger) (later : Nat) (file : TaggedFile)
    (number : String) : Prop :=
  ∃ other format name place, batch.files[later]? = some other ∧
    batch.product? other = some (format, name) ∧
    batch.recorded? start (batch.files.take later) other.destination name = some (1, place) ∧
    file.location.sameAs place = true ∧
    (Template.nameNumbered format 1 file batch.resolver).result = .ok number

/-- Whether a ledger holds what is recorded after some files of a batch. -/
def Keeps (batch : Batch) (start : Ledger) (front : List TaggedFile) (ledger : Ledger) : Prop :=
  ∀ destination name, (ledger.find? destination name).map (fun produced =>
    (produced.occurrences, produced.first)) = batch.recorded? start front destination name

variable {batch : Batch} {start ledger after : Ledger}
  {front rest outcomes renamed named : List TaggedFile} {file other outcome : TaggedFile}
  {format name number : String}

/-! ### What is recorded -/

theorem recorded?_of_not_produces {destination : Path}
    (other : batch.produces destination name file = false) :
    batch.recorded? start (front ++ [file]) destination name =
      batch.recorded? start front destination name := by
  simp [recorded?, List.countP_append, List.find?_append, other]

theorem recorded?_of_produces {destination : Path}
    (produces : batch.produces destination name file = true) :
    batch.recorded? start (front ++ [file]) destination name =
      match batch.recorded? start front destination name with
      | some (count, place) => some (count + 1, place)
      | none => some (1, file.location) := by
  unfold recorded?
  cases start.find? destination name with
  | some former => simp [List.countP_append, produces, Nat.add_assoc]
  | none =>
      cases first : front.find? (batch.produces destination name) with
      | some producer => simp [List.countP_append, List.find?_append, produces, first]
      | none =>
          have alone : front.countP (batch.produces destination name) = 0 :=
            List.countP_eq_zero.2 (List.find?_eq_none.1 first)
          simp [List.countP_append, List.find?_append, produces, first, alone]

namespace Keeps

theorem refl (batch : Batch) (start : Ledger) : batch.Keeps start [] start := by
  intro destination name
  unfold recorded?
  cases start.find? destination name with
  | some former => rfl
  | none => rfl

theorem step (keeps : batch.Keeps start front ledger)
    (named : batch.Named ledger outcomes file renamed after) :
    batch.Keeps start (front ++ [file]) after := by
  intro destination other
  cases named with
  | unproduced nothing =>
      rw [recorded?_of_not_produces (produces_of_none nothing _ _)]
      exact keeps destination other
  | @first format name product fresh =>
      rw [Ledger.find?_addFirst]
      by_cases same : file.destination.sameAs destination = true ∧ name = other
      · rw [if_pos same, recorded?_of_produces ((produces_iff product).2 same), ← keeps]
        rcases same with ⟨same, rfl⟩
        rw [← ledger.find?_congr same, fresh]
        rfl
      · rw [if_neg same, recorded?_of_not_produces (eq_false_of_ne_true
          (mt (produces_iff product).1 same))]
        exact keeps destination other
  | @later format name number produced renamed product found second further numbered =>
      rw [Ledger.find?_count, Option.map_map]
      by_cases same : file.destination.sameAs destination = true ∧ name = other
      · rw [recorded?_of_produces ((produces_iff product).2 same), ← keeps]
        rcases same with ⟨same, rfl⟩
        rw [← ledger.find?_congr same, found]
        simp [same]
      · rw [recorded?_of_not_produces (eq_false_of_ne_true
          (mt (produces_iff product).1 same)), ← keeps]
        simp only [if_neg same]
        rfl

end Keeps

/-! ### What is kept when files are named again -/

/-- The first file of a name is named again in its place, if it is among the files at all. -/
theorem eq_set_of_renameFirst {first : Path}
    (again : (Naming.renameFirst format name batch.resolver first outcomes).result =
      .ok renamed) :
    renamed = outcomes ∨ ∃ position decided number, outcomes[position]? = some decided ∧
      decided.location.sameAs first = true ∧
      (Template.nameNumbered format 1 decided batch.resolver).result = .ok number ∧
      renamed = outcomes.set position (decided.given number) := by
  rcases Naming.result_renameFirst again with
    ⟨rfl, -⟩ | ⟨before, decided, behind, number, rfl, rest⟩
  · exact .inl rfl
  · rcases rest with ⟨there, numbered, rfl⟩
    exact .inr ⟨before.length, decided, number, by simp, there, numbered, by simp⟩

/-- Naming a file puts it behind the earlier ones, of which it may have named one again. -/
theorem exists_eq_append_of_named (step : batch.Named ledger outcomes file named after) :
    ∃ renamed outcome, named = renamed ++ [outcome] ∧
      (∃ outputName renameFailed, outcome = { file with outputName, renameFailed }) ∧
      (renamed = outcomes ∨ ∃ format name produced, batch.product? file = some (format, name) ∧
        ledger.find? file.destination name = some produced ∧ produced.occurrences = 1 ∧
        (Naming.renameFirst format name batch.resolver produced.first outcomes).result =
          .ok renamed) := by
  cases step with
  | @unproduced failed nothing =>
      exact ⟨outcomes, _, rfl, ⟨file.outputName, failed, rfl⟩, .inl rfl⟩
  | first product fresh => exact ⟨outcomes, _, rfl, file.exists_given_eq _, .inl rfl⟩
  | @later format name number produced renamed product found second further numbered =>
      refine ⟨renamed, _, rfl, file.exists_given_eq _, ?_⟩
      by_cases lone : produced.occurrences = 1
      · exact .inr ⟨format, name, produced, product, found, lone, second lone⟩
      · exact .inl (further lone)

/-! ### What holds of each file in the end -/

section Fits

variable {fits : Nat → TaggedFile → TaggedFile → Prop}

/--
What holds after some files of a batch have been named: the ledger records where first occurrences
are, and each file fits what has been decided for it, of which only its name can have changed.
-/
structure Fitting (batch : Batch) (start : Ledger) (fits : Nat → TaggedFile → TaggedFile → Prop)
    (front outcomes : List TaggedFile) (ledger : Ledger) : Prop where
  keeps : batch.Keeps start front ledger
  length_eq : outcomes.length = front.length
  fitting : ∀ position file outcome, front[position]? = some file →
    outcomes[position]? = some outcome →
    (∃ outputName renameFailed, outcome = { file with outputName, renameFailed }) ∧
      fits position file outcome

variable
  (decided : ∀ position file earlier ledger renamed outcome after,
    batch.files[position]? = some file →
    (Naming.nameFile batch.namer batch.resolver batch.options earlier file).ends ledger =
      (.ok (renamed ++ [outcome]), after) →
    fits position file outcome)
  (again : ∀ position file outcome later number, batch.files[position]? = some file →
    position < later → batch.NamesAgain start later file number → fits position file outcome →
    fits position file (outcome.given number))

include again in
/-- A file that is named again still fits. -/
theorem Fitting.nameAgain (holds : batch.Fitting start fits front outcomes ledger)
    (whole : batch.files = front ++ other :: rest)
    (product : batch.product? other = some (format, name)) {produced : ProducedName}
    (found : ledger.find? other.destination name = some produced)
    (lone : produced.occurrences = 1)
    (second : (Naming.renameFirst format name batch.resolver produced.first outcomes).result =
      .ok renamed) :
    batch.Fitting start fits front renamed ledger := by
  rcases eq_set_of_renameFirst second with rfl | ⟨place, chosen, number, at_, there, numbered, rfl⟩
  · exact holds
  · refine ⟨holds.keeps, by rw [List.length_set, holds.length_eq], ?_⟩
    intro position file outcome inside taken
    by_cases same : place = position
    · subst same
      have within : place < outcomes.length := (List.getElem?_eq_some_iff.1 at_).1
      rw [List.getElem?_set_self within, Option.some.injEq] at taken
      rcases holds.fitting place file chosen inside at_ with ⟨⟨outputName, failed, rfl⟩, fit⟩
      rw [Template.nameNumbered_decided] at numbered
      rw [holds.length_eq] at within
      have among : batch.files[place]? = some file := by
        rw [whole, List.getElem?_append_left within, inside]
      have recorded := holds.keeps other.destination name
      rw [found, Option.map_some, lone] at recorded
      have names : batch.NamesAgain start front.length file number :=
        ⟨other, format, name, produced.first, by simp [whole], product, by simp [whole, recorded],
          there, numbered⟩
      rw [← taken]
      exact ⟨TaggedFile.exists_given_eq number _,
        again place file _ _ number among within names fit⟩
    · rw [List.getElem?_set_ne same] at taken
      exact holds.fitting position file outcome inside taken

include decided again in
theorem Fitting.step (holds : batch.Fitting start fits front outcomes ledger)
    (whole : batch.files = front ++ other :: rest)
    (ended : (Naming.nameFile batch.namer batch.resolver batch.options outcomes other).ends
      ledger = (.ok named, after)) :
    batch.Fitting start fits (front ++ [other]) named after := by
  have step := named_of_ends_nameFile ended
  rcases exists_eq_append_of_named step with ⟨renamed, last, rfl, shape, origin⟩
  have earlier : batch.Fitting start fits front renamed ledger := by
    rcases origin with rfl | ⟨format, name, produced, product, found, lone, second⟩
    · exact holds
    · exact holds.nameAgain again whole product found lone second
  refine ⟨holds.keeps.step step, by simp [earlier.length_eq], ?_⟩
  intro position file outcome inside taken
  rcases Nat.lt_or_ge position front.length with before | behind
  · rw [List.getElem?_append_left before] at inside
    rw [List.getElem?_append_left (earlier.length_eq ▸ before)] at taken
    exact earlier.fitting position file outcome inside taken
  · have here : position = front.length := by
      have within := (List.getElem?_eq_some_iff.1 inside).1
      rw [List.length_append, List.length_singleton] at within
      omega
    subst here
    rw [List.getElem?_append_right (Nat.le_refl _), Nat.sub_self] at inside
    rw [← earlier.length_eq, List.getElem?_append_right (Nat.le_refl _), Nat.sub_self] at taken
    cases inside
    cases taken
    exact ⟨shape, decided front.length other outcomes ledger renamed last after
      (by simp [whole]) ended⟩

include decided again in
theorem Fitting.run (holds : batch.Fitting start fits front outcomes ledger)
    (whole : batch.files = front ++ rest)
    (ended : (Naming.nameAll batch.namer batch.resolver batch.options outcomes rest).ends ledger =
      (.ok named, after)) :
    batch.Fitting start fits batch.files named after := by
  induction rest generalizing front outcomes ledger with
  | nil =>
      rw [Naming.nameAll, Act.ends_pure, Prod.mk.injEq, Except.ok.injEq] at ended
      rcases ended with ⟨rfl, rfl⟩
      rwa [whole, List.append_nil]
  | cons file rest ih =>
      rw [Naming.nameAll] at ended
      rcases Act.ends_bind_eq_ok_iff.1 ended with ⟨middle, between, first, ended⟩
      exact ih (holds.step decided again whole first) (by simp [whole]) ended

end Fits

/-- Naming a batch names its files one after the other, from the ledger that it begins with. -/
theorem ends_nameAll_of_ends_name (ended : batch.name.ends ledger = (.ok outcomes, after)) :
    (Naming.nameAll batch.namer batch.resolver batch.options [] batch.files).ends
      (batch.startFrom ledger) = (.ok outcomes, after) := by
  rwa [ends_name] at ended

/--
What holds of each file when it is named, and is kept when a later file has it named again, holds in
the end.
-/
theorem fits_of_ends_name (fits : Nat → TaggedFile → TaggedFile → Prop)
    (ended : batch.name.ends ledger = (.ok outcomes, after))
    (decided : ∀ position file earlier ledger renamed outcome after,
      batch.files[position]? = some file →
      (Naming.nameFile batch.namer batch.resolver batch.options earlier file).ends ledger =
        (.ok (renamed ++ [outcome]), after) →
      fits position file outcome)
    (again : ∀ position file outcome later number, batch.files[position]? = some file →
      position < later → batch.NamesAgain (batch.startFrom ledger) later file number →
      fits position file outcome → fits position file (outcome.given number)) :
    ∀ position file, batch.files[position]? = some file →
      ∃ outcome, outcomes[position]? = some outcome ∧
        (∃ outputName renameFailed, outcome = { file with outputName, renameFailed }) ∧
        fits position file outcome := by
  have begun : batch.Fitting (batch.startFrom ledger) fits [] [] (batch.startFrom ledger) :=
    ⟨Keeps.refl batch _, rfl, by simp⟩
  have holds := begun.run decided again rfl (ends_nameAll_of_ends_name ended)
  intro position file inside
  have within : position < outcomes.length := by
    rw [holds.length_eq]
    exact (List.getElem?_eq_some_iff.1 inside).1
  have taken := List.getElem?_eq_getElem within
  exact ⟨outcomes[position], taken, holds.fitting position file _ inside taken⟩

end Batch

end TagOrganizer
