import Mathlib
import TagOrganizer.Proofs.Renaming.Again

/-!
# Files that could not be named

A name with a slash is not given to a file: the file counts as failed and keeps the name that it
has. When the second file of a name comes, though, the first one is named again, and if its numbered
name has a slash it counts as failed with the name that it was given before (`outputName_ne_scans`).
This is all that goes wrong: a failed file has its own name unless it is named again with a slash
(`outputName_of_renameFailed`).
-/

namespace TagOrganizer

/-- A file that could not be named and keeps its name still has what it had. -/
theorem TaggedFile.outputName_given_of_renameFailed {name : String} {file : TaggedFile}
    (failed : (file.given name).renameFailed = true) :
    name.toList.contains '/' = true ∧ (file.given name).outputName = file.outputName := by
  unfold given at failed ⊢
  split at failed
  · rename_i slash
    rw [if_pos slash]
    exact ⟨slash, rfl⟩
  · cases failed

namespace Batch

variable {batch : Batch} {ledger after : Ledger} {earlier renamed outcomes : List TaggedFile}
  {file outcome : TaggedFile}

/-- Whether a file is named again, as occurrence 1 of a name, with a slash in the numbered name. -/
def FailsAgain (batch : Batch) (start : Ledger) (position : Nat) (file : TaggedFile) : Prop :=
  ∃ later number, position < later ∧ batch.NamesAgain start later file number ∧
    number.toList.contains '/' = true

/-- A file that cannot be named when its turn comes keeps its name. -/
theorem outputName_of_ends_nameFile
    (ended : (Naming.nameFile batch.namer batch.resolver batch.options earlier file).ends ledger =
      (.ok (renamed ++ [outcome]), after))
    (failed : outcome.renameFailed = true) : outcome.outputName = file.outputName := by
  generalize shape : renamed ++ [outcome] = named at ended
  cases named_of_ends_nameFile ended with
  | unproduced nothing =>
      rcases List.append_singleton_inj.1 shape with ⟨-, rfl⟩
      rfl
  | first product fresh =>
      rcases List.append_singleton_inj.1 shape with ⟨-, rfl⟩
      exact (TaggedFile.outputName_given_of_renameFailed failed).2
  | later product found second further numbered =>
      rcases List.append_singleton_inj.1 shape with ⟨-, rfl⟩
      exact (TaggedFile.outputName_given_of_renameFailed failed).2

/-- A file that could not be named has its own name, unless it was named again with a slash. -/
theorem outputName_of_renameFailed (original : ∀ file ∈ batch.files, file.outputName = file.rawName)
    (ended : batch.name.ends ledger = (.ok outcomes, after)) :
    ∀ position file, batch.files[position]? = some file →
      ∃ outcome, outcomes[position]? = some outcome ∧ outcome.rawName = file.rawName ∧
        (outcome.renameFailed = true →
          outcome.outputName = outcome.rawName ∨
            batch.FailsAgain (batch.startFrom ledger) position file) := by
  intro position file inside
  have holds := fits_of_ends_name
    (fun position file outcome => outcome.renameFailed = true →
      outcome.outputName = file.outputName ∨
        batch.FailsAgain (batch.startFrom ledger) position file)
    ended
    (fun position file earlier ledger renamed outcome after inside step failed =>
      .inl (outputName_of_ends_nameFile step failed))
    (fun position file outcome later number inside before names fit failed => by
      have slash := (TaggedFile.outputName_given_of_renameFailed failed).1
      exact .inr ⟨later, number, before, names, slash⟩)
    position file inside
  rcases holds with ⟨outcome, taken, ⟨outputName, renameFailed, rfl⟩, fit⟩
  refine ⟨_, taken, rfl, fun failed => ?_⟩
  rcases fit failed with kept | again
  · exact .inl (kept.trans (original file (List.mem_of_getElem? inside)))
  · exact .inr again

section Scans

/-- A file without tags that is called `x`. -/
def scan (location : Path) : TaggedFile :=
  TaggedFile.undecided "x" "" "" [] "x" location

/-- Two files that get the name `a`, and names with a slash where that is taken. -/
def scans : Batch where
  namer := ⟨[⟨⟨[⟨[.all]⟩]⟩, "a/ITER|/x/#|/EITER|"⟩], []⟩
  resolver := GroupTable.empty.resolver
  options := ⟨true, false, false⟩
  files := [scan ⟨"1"⟩, scan ⟨"2"⟩]

/-- The second file keeps its name; the first one is named again with a slash. -/
theorem outputName_of_renameFailed_scans :
    let first := { scan ⟨"1"⟩ with outputName := "a", renameFailed := true }
    let second := { scan ⟨"2"⟩ with renameFailed := true }
    (∀ file ∈ scans.files, file.outputName = file.rawName) ∧
      scans.name.ends .empty = (.ok [first, second], ⟨[⟨Path.empty, "a", 2, ⟨"1"⟩⟩]⟩) ∧
      ∀ position file, scans.files[position]? = some file →
        ∃ outcome, [first, second][position]? = some outcome ∧ outcome.rawName = file.rawName ∧
          (outcome.renameFailed = true → outcome.outputName = outcome.rawName ∨
            scans.FailsAgain (scans.startFrom .empty) position file) := by
  intro first second
  have original : ∀ file ∈ scans.files, file.outputName = file.rawName := by
    simp [scans, scan, TaggedFile.undecided]
  have ended : scans.name.ends .empty =
      (.ok [first, second], ⟨[⟨Path.empty, "a", 2, ⟨"1"⟩⟩]⟩) := by cbv
  exact ⟨original, ended, outputName_of_renameFailed original ended⟩

/-- The first of two files has failed with the name that it was given before. -/
theorem outputName_ne_scans :
    let first := { scan ⟨"1"⟩ with outputName := "a", renameFailed := true }
    let second := { scan ⟨"2"⟩ with renameFailed := true }
    (∀ file ∈ scans.files, file.outputName = file.rawName) ∧
      (scans.name.ends .empty).1 = .ok [first, second] ∧
      first.renameFailed = true ∧ first.outputName ≠ first.rawName := by
  intro first second
  refine ⟨by simp [scans, scan, TaggedFile.undecided], by cbv, rfl, ?_⟩
  simp [first, scan, TaggedFile.undecided]

end Scans

end Batch

end TagOrganizer
