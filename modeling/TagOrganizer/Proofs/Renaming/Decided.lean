import TagOrganizer.Proofs.Renaming.Batch
import TagOrganizer.Proofs.Template.Result

/-!
# What is decided about files

Naming a batch decides about the name of each file and whether it counts as failed, and about
nothing else (`forall₂_decided_of_ends_name`). Nothing that is decided depends on what has been
decided before.
-/

namespace TagOrganizer

/-- Whether a file has become another one only by what has been decided about its name. -/
def TaggedFile.Decided (file outcome : TaggedFile) : Prop :=
  ∃ outputName renameFailed, outcome = { file with outputName, renameFailed }

namespace TaggedFile.Decided

variable {file outcome : TaggedFile}

theorem location_eq (decided : file.Decided outcome) : outcome.location = file.location := by
  rcases decided with ⟨_, _, rfl⟩
  rfl

theorem destination_eq (decided : file.Decided outcome) :
    outcome.destination = file.destination := by
  rcases decided with ⟨_, _, rfl⟩
  rfl

theorem nameNumbered_eq (decided : file.Decided outcome) (format : String) (number : Nat)
    (resolver : Resolver) :
    Template.nameNumbered format number outcome resolver =
      Template.nameNumbered format number file resolver := by
  rcases decided with ⟨outputName, renameFailed, rfl⟩
  exact Template.nameNumbered_decided file outputName renameFailed resolver format number

theorem given (decided : file.Decided outcome) (name : String) :
    file.Decided (outcome.given name) := by
  rcases decided with ⟨_, _, rfl⟩
  exact exists_given_eq name _

end TaggedFile.Decided

theorem TaggedFile.destination_given (name : String) (file : TaggedFile) :
    (file.given name).destination = file.destination :=
  Decided.destination_eq (file.exists_given_eq name)

namespace Batch

variable {batch : Batch} {ledger after : Ledger} {front earlier named outcomes : List TaggedFile}
  {file outcome : TaggedFile}

theorem product?_decided (decided : file.Decided outcome) :
    batch.product? outcome = batch.product? file := by
  rcases decided with ⟨outputName, renameFailed, rfl⟩
  simp only [product?, TaggedFile.untaggedName, Template.nameAlone_decided]
  rfl

theorem kept?_decided (decided : file.Decided outcome) :
    batch.kept? outcome = batch.kept? file := by
  rcases decided with ⟨outputName, renameFailed, rfl⟩
  simp only [kept?, TaggedFile.untaggedName, Template.nameAlone_decided]
  rfl

theorem forall₂_decided_of_renameFirst {format name : String} {first : Path}
    (decided : List.Forall₂ TaggedFile.Decided front earlier)
    (again : (Naming.renameFirst format name batch.resolver first earlier).result = .ok named) :
    List.Forall₂ TaggedFile.Decided front named := by
  induction decided generalizing named with
  | nil =>
      cases again
      exact .nil
  | cons here _ ih =>
      rw [Naming.result_renameFirst_cons] at again
      split at again
      · rcases Except.map_eq_ok_iff.1 again with ⟨number, -, rfl⟩
        exact .cons (here.given number) ‹_›
      · rcases Except.map_eq_ok_iff.1 again with ⟨others, further, rfl⟩
        exact .cons here (ih further)

theorem forall₂_decided_of_named (decided : List.Forall₂ TaggedFile.Decided front earlier)
    (step : batch.Named ledger earlier file named after) :
    List.Forall₂ TaggedFile.Decided (front ++ [file]) named := by
  cases step with
  | unproduced _ => exact List.rel_append decided (.cons ⟨_, _, rfl⟩ .nil)
  | first _ _ => exact List.rel_append decided (.cons (file.exists_given_eq _) .nil)
  | @later format name number produced renamed _ _ second further _ =>
      have renames : List.Forall₂ TaggedFile.Decided front renamed := by
        by_cases lone : produced.occurrences = 1
        · exact forall₂_decided_of_renameFirst decided (second lone)
        · rwa [further lone]
      exact List.rel_append renames (.cons (file.exists_given_eq _) .nil)

theorem forall₂_decided_of_ends_nameAll {rest : List TaggedFile}
    (decided : List.Forall₂ TaggedFile.Decided front earlier)
    (ended : (Naming.nameAll batch.namer batch.resolver batch.options earlier rest).ends ledger =
      (.ok outcomes, after)) :
    List.Forall₂ TaggedFile.Decided (front ++ rest) outcomes := by
  induction rest generalizing front earlier ledger with
  | nil =>
      cases ended
      simpa using decided
  | cons file rest ih =>
      rw [Naming.nameAll, Act.ends_bind_eq_ok_iff] at ended
      rcases ended with ⟨named, between, step, ended⟩
      have next := ih (forall₂_decided_of_named decided (named_of_ends_nameFile step)) ended
      simpa using next

/-- Naming a batch decides about the names of its files and about nothing else. -/
theorem forall₂_decided_of_ends_name (ended : batch.name.ends ledger = (.ok outcomes, after)) :
    List.Forall₂ TaggedFile.Decided batch.files outcomes := by
  rw [ends_name] at ended
  exact forall₂_decided_of_ends_nameAll .nil ended

end Batch

end TagOrganizer
