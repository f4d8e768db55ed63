import Mathlib
import TagOrganizer.Proofs.Renaming.Decided

/-!
# Naming twice

A batch that forgets what has been produced before can be named twice: naming what became of its
files changes nothing (`ends_name_outcomes`). The second run goes step by step along the first one.
A file is then the same in both of them, or it differs in the name that it began with, which it has
not lost yet; and this is the name that it had when the first run was over.
-/

namespace TagOrganizer

/--
Whether a file has come as far in a second run as in the first one. The file of the second run is
given together with what it was at its start; it may still have the name of its start.
-/
def TaggedFile.Retraced (file : TaggedFile) (again : TaggedFile × TaggedFile) : Prop :=
  again.1 = file ∨ again.1 = { file with outputName := again.2.outputName }

namespace TaggedFile.Retraced

variable {file outcome : TaggedFile} {again : TaggedFile × TaggedFile}

theorem decided (retraced : file.Retraced again) : file.Decided again.1 := by
  rcases retraced with same | differs
  · exact ⟨file.outputName, file.renameFailed, same⟩
  · exact ⟨again.2.outputName, file.renameFailed, differs⟩

theorem given (retraced : file.Retraced again) (name : String) :
    (file.given name).Retraced (again.1.given name, again.2) := by
  rcases retraced with same | differs
  · exact .inl (by rw [same])
  · unfold TaggedFile.given
    split
    · exact .inr (by rw [differs])
    · -- The file of the second run loses the name of its start.
      exact .inl (by rw [differs])

theorem of_failed (decided : file.Decided outcome) (failed : Bool) :
    TaggedFile.Retraced { file with renameFailed := failed }
      ({ outcome with renameFailed := failed }, outcome) := by
  rcases decided with ⟨outputName, renameFailed, rfl⟩
  exact .inr rfl

theorem of_given (decided : file.Decided outcome) (name : String) :
    (file.given name).Retraced (outcome.given name, outcome) := by
  rcases decided with ⟨outputName, renameFailed, rfl⟩
  unfold TaggedFile.given
  split
  · exact .inr rfl
  · exact .inl rfl

/-- A second run that has come as far as the first one at its end has changed nothing. -/
theorem map_fst_eq {again : List (TaggedFile × TaggedFile)}
    (retraced : List.Forall₂ TaggedFile.Retraced (again.map Prod.snd) again) :
    again.map Prod.fst = again.map Prod.snd := by
  rw [List.forall₂_map_left_iff, List.forall₂_same] at retraced
  apply List.map_congr_left
  intro pair present
  rcases retraced pair present with same | differs
  · exact same
  · exact differs

end TaggedFile.Retraced

namespace Batch

variable {batch : Batch} {ledger after : Ledger}
  {earlier renamed named files outcomes : List TaggedFile}
  {again : List (TaggedFile × TaggedFile)} {file outcome : TaggedFile} {format name : String}

theorem exists_renameFirst_of_retraced {first : Path}
    (retraced : List.Forall₂ TaggedFile.Retraced earlier again)
    (ended : (Naming.renameFirst format name batch.resolver first earlier).result = .ok renamed) :
    ∃ next, next.map Prod.snd = again.map Prod.snd ∧
      (Naming.renameFirst format name batch.resolver first (again.map Prod.fst)).result =
        .ok (next.map Prod.fst) ∧
      List.Forall₂ TaggedFile.Retraced renamed next := by
  induction retraced generalizing renamed with
  | nil =>
      cases ended
      exact ⟨[], rfl, rfl, .nil⟩
  | @cons file pair files pairs here others ih =>
      rw [Naming.result_renameFirst_cons] at ended
      rw [List.map_cons, List.map_cons, Naming.result_renameFirst_cons, here.decided.location_eq,
        here.decided.nameNumbered_eq]
      split at ended
      · rename_i there
        rcases Except.map_eq_ok_iff.1 ended with ⟨number, numbered, rfl⟩
        refine ⟨(pair.1.given number, pair.2) :: pairs, rfl, ?_, .cons (here.given number) others⟩
        rw [if_pos there, numbered]
        rfl
      · rename_i elsewhere
        rcases Except.map_eq_ok_iff.1 ended with ⟨rest, further, rfl⟩
        rcases ih further with ⟨next, starts, renames, along⟩
        refine ⟨pair :: next, by rw [List.map_cons, starts], ?_, .cons here along⟩
        rw [if_neg elsewhere, renames]
        rfl

/-- The second run names a file as the first one did, and has come as far afterwards. -/
theorem exists_ends_nameFile_of_retraced
    (retraced : List.Forall₂ TaggedFile.Retraced earlier again) (decided : file.Decided outcome)
    (ended : (Naming.nameFile batch.namer batch.resolver batch.options earlier file).ends ledger =
      (.ok named, after)) :
    ∃ next, next.map Prod.snd = again.map Prod.snd ++ [outcome] ∧
      (Naming.nameFile batch.namer batch.resolver batch.options (again.map Prod.fst) outcome).ends
        ledger = (.ok (next.map Prod.fst), after) ∧
      List.Forall₂ TaggedFile.Retraced named next := by
  simp only [ends_nameFile_eq_ok_iff, kept?_decided decided, product?_decided decided] at ended ⊢
  rcases ended with ⟨failed, kept, rfl, rfl⟩ | ⟨produces, step⟩
  · refine ⟨again ++ [({ outcome with renameFailed := failed }, outcome)], by simp,
      .inl ⟨failed, kept, by simp, rfl⟩, List.rel_append retraced (.cons ?_ .nil)⟩
    exact .of_failed decided failed
  · cases step with
    | unproduced nothing =>
        rw [nothing] at produces
        cases produces
    | @first format name product fresh =>
        refine ⟨again ++ [(outcome.given name, outcome)], by simp, .inr ⟨produces, ?_⟩,
          List.rel_append retraced (.cons (.of_given decided name) .nil)⟩
        rw [← decided.destination_eq] at fresh ⊢
        rw [← decided.location_eq, List.map_append]
        exact .first (by rwa [product?_decided decided]) fresh
    | @later format name number produced renamed product found second further numbered =>
        -- An earlier file is named again in both runs or in neither, as the ledgers are the same.
        have renames : ∃ next, next.map Prod.snd = again.map Prod.snd ∧
            (produced.occurrences = 1 →
              (Naming.renameFirst format name batch.resolver produced.first
                (again.map Prod.fst)).result = .ok (next.map Prod.fst)) ∧
            (produced.occurrences ≠ 1 → next.map Prod.fst = again.map Prod.fst) ∧
            List.Forall₂ TaggedFile.Retraced renamed next := by
          by_cases lone : produced.occurrences = 1
          · rcases exists_renameFirst_of_retraced retraced (second lone) with
              ⟨next, starts, result, along⟩
            exact ⟨next, starts, fun _ => result, absurd lone, along⟩
          · rw [further lone]
            exact ⟨again, rfl, fun alone => absurd alone lone, fun _ => rfl, retraced⟩
        rcases renames with ⟨next, starts, secondAgain, furtherAgain, along⟩
        refine ⟨next ++ [(outcome.given number, outcome)], by simp [starts], .inr ⟨produces, ?_⟩,
          List.rel_append along (.cons (.of_given decided number) .nil)⟩
        rw [← decided.destination_eq] at found ⊢
        rw [List.map_append]
        exact .later (by rwa [product?_decided decided]) found secondAgain furtherAgain
          (by rwa [decided.nameNumbered_eq])

theorem exists_ends_nameAll_of_retraced
    (retraced : List.Forall₂ TaggedFile.Retraced earlier again)
    (decided : List.Forall₂ TaggedFile.Decided files outcomes)
    (ended : (Naming.nameAll batch.namer batch.resolver batch.options earlier files).ends ledger =
      (.ok named, after)) :
    ∃ next, next.map Prod.snd = again.map Prod.snd ++ outcomes ∧
      (Naming.nameAll batch.namer batch.resolver batch.options (again.map Prod.fst) outcomes).ends
        ledger = (.ok (next.map Prod.fst), after) ∧
      List.Forall₂ TaggedFile.Retraced named next := by
  induction decided generalizing earlier again ledger with
  | nil =>
      cases ended
      exact ⟨again, by simp, rfl, retraced⟩
  | @cons file outcome files outcomes here _ ih =>
      rw [Naming.nameAll, Act.ends_bind_eq_ok_iff] at ended
      rcases ended with ⟨middle, between, step, ended⟩
      rcases exists_ends_nameFile_of_retraced retraced here step with
        ⟨pairs, starts, stepAgain, along⟩
      rcases ih along ended with ⟨next, startsNext, endedAgain, alongNext⟩
      refine ⟨next, by simp [startsNext, starts], ?_, alongNext⟩
      rw [Naming.nameAll, Act.ends_bind_eq_ok_iff]
      exact ⟨_, _, stepAgain, endedAgain⟩

/--
Naming what became of the files of a batch again changes nothing, neither the files nor the ledger,
if the batch forgets what has been produced before.
-/
theorem ends_name_outcomes (cleared : batch.options.clearOccurrences = true)
    (ended : batch.name.ends ledger = (.ok outcomes, after)) :
    ({ batch with files := outcomes } : Batch).name.ends after = (.ok outcomes, after) := by
  have decided := forall₂_decided_of_ends_name ended
  rw [ends_name] at ended ⊢
  simp only [cleared, if_true] at ended ⊢
  rcases exists_ends_nameAll_of_retraced .nil decided ended with ⟨next, starts, again, along⟩
  have start : next.map Prod.snd = outcomes := by simpa using starts
  rw [← start] at along
  rw [TaggedFile.Retraced.map_fst_eq along, start] at again
  exact again

section Prints

/-- A file without tags that is called `x`. -/
def print (location : Path) : TaggedFile :=
  TaggedFile.undecided "x" "" "" [] "x" location

/-- Two files of one name, the second of which has a slash in its numbered name. -/
def prints : Batch where
  namer := ⟨[⟨⟨[⟨[.all]⟩]⟩, "a/ITER|/x/#|/EITER|"⟩], []⟩
  resolver := GroupTable.empty.resolver
  options := ⟨true, false, true⟩
  files := [print ⟨"1"⟩, print ⟨"2"⟩]

/-- The first file has lost its name, and the second one keeps it, also when named twice. -/
theorem ends_name_outcomes_prints :
    let former : Ledger := ⟨[⟨Path.empty, "a", 5, ⟨"0"⟩⟩]⟩
    let ledger : Ledger := ⟨[⟨Path.empty, "a", 2, ⟨"1"⟩⟩]⟩
    let outcomes := [{ print ⟨"1"⟩ with outputName := "a", renameFailed := true },
      { print ⟨"2"⟩ with renameFailed := true }]
    prints.options.clearOccurrences = true ∧
      prints.name.ends former = (.ok outcomes, ledger) ∧
      ({ prints with files := outcomes } : Batch).name.ends ledger = (.ok outcomes, ledger) := by
  intro former ledger outcomes
  have ended : prints.name.ends former = (.ok outcomes, ledger) := by cbv
  exact ⟨rfl, ended, ends_name_outcomes rfl ended⟩

end Prints

end Batch

end TagOrganizer
