import Mathlib
import TagOrganizer.Proofs.Renaming.Again

/-!
# Names that somebody chose

Unless renaming is forced, a file whose name somebody chose is passed over when its turn comes. It
is renamed nevertheless if an earlier batch has recorded it as the first file of a name and the
second file of that name comes in this batch (`renamed_trip`). This is the only way
(`kept_of_ends_name`).
-/

namespace TagOrganizer

namespace Batch

variable {batch : Batch} {start ledger after : Ledger}
  {earlier renamed outcomes : List TaggedFile} {file outcome : TaggedFile}

/--
Whether a file is taken for the first one of a name that an earlier batch has recorded: the second
file of that name is in this batch, behind the file.
-/
def TakenForFirst (batch : Batch) (start : Ledger) (position : Nat) (file : TaggedFile) : Prop :=
  ∃ later other format name former, position < later ∧ batch.files[later]? = some other ∧
    batch.product? other = some (format, name) ∧
    start.find? other.destination name = some former ∧
    former.occurrences +
      (batch.files.take later).countP (batch.produces other.destination name) = 1 ∧
    file.location.sameAs former.first = true

theorem kept?_of_chosen (chosen : batch.namer.isUnnamed file.untaggedName = false)
    (unforced : batch.options.forceRename = false) : batch.kept? file = some false := by
  simp [kept?, chosen, unforced]

/-- A file whose name somebody chose is passed over when its turn comes. -/
theorem ends_nameFile_of_chosen (chosen : batch.namer.isUnnamed file.untaggedName = false)
    (unforced : batch.options.forceRename = false) :
    (Naming.nameFile batch.namer batch.resolver batch.options earlier file).ends ledger =
      (.ok (earlier ++ [{ file with renameFailed := false }]), ledger) :=
  ends_nameFile_eq_ok_iff.2 (.inl ⟨false, kept?_of_chosen chosen unforced, rfl, rfl⟩)

/-- Where no file is found twice, only what an earlier batch has recorded has a file named again. -/
theorem takenForFirst_of_namesAgain
    (distinct : batch.files.Pairwise fun left right => left.location.sameAs right.location = false)
    {position later : Nat} {number : String} (inside : batch.files[position]? = some file)
    (behind : position < later) (nothing : batch.product? file = none)
    (names : batch.NamesAgain start later file number) :
    batch.TakenForFirst start position file := by
  rcases names with ⟨other, format, name, place, comes, product, recorded, there, -⟩
  unfold recorded? at recorded
  cases looked : start.find? other.destination name with
  | some former =>
      rw [looked] at recorded
      simp only [Option.some.injEq, Prod.mk.injEq] at recorded
      rcases recorded with ⟨second, rfl⟩
      exact ⟨later, other, format, name, former, behind, comes, product, looked, second, there⟩
  | none =>
      rw [looked] at recorded
      rcases Option.map_eq_some_iff.1 recorded with ⟨first, found, shape⟩
      rcases Prod.mk.inj shape with ⟨-, rfl⟩
      have produces := List.find?_some found
      have among : first ∈ batch.files := List.mem_of_mem_take (List.mem_of_find?_eq_some found)
      -- The first producer is where the file is, so that it is the file, which produces nothing.
      rcases List.mem_iff_getElem?.1 among with ⟨index, firstAt⟩
      have equal : position = index := by
        refine index_eq_of_sameAs (List.pairwise_map.2 distinct) ?_ ?_ there
        · rw [List.getElem?_map, inside, Option.map_some]
        · rw [List.getElem?_map, firstAt, Option.map_some]
      rw [← equal, inside] at firstAt
      cases firstAt
      rw [produces_of_none nothing] at produces
      cases produces

/--
Unless renaming is forced, a file whose name somebody chose keeps it, or is taken for the first one
of a name that an earlier batch has recorded.
-/
theorem kept_of_ends_name
    (distinct : batch.files.Pairwise fun left right => left.location.sameAs right.location = false)
    (unforced : batch.options.forceRename = false)
    (ended : batch.name.ends ledger = (.ok outcomes, after)) :
    ∀ position file, batch.files[position]? = some file →
      batch.namer.isUnnamed file.untaggedName = false →
      outcomes[position]? = some { file with renameFailed := false } ∨
        batch.TakenForFirst (batch.startFrom ledger) position file := by
  intro position file inside chosen
  have holds := fits_of_ends_name
    (fun position file outcome => batch.namer.isUnnamed file.untaggedName = false →
      outcome = { file with renameFailed := false } ∨
        batch.TakenForFirst (batch.startFrom ledger) position file)
    ended
    (fun position file earlier ledger renamed outcome after inside step chosen => by
      rw [ends_nameFile_of_chosen chosen unforced, Prod.mk.injEq, Except.ok.injEq] at step
      exact .inl (List.append_singleton_inj.1 step.1).2.symm)
    (fun position file outcome later number inside behind names fit chosen =>
      .inr (takenForFirst_of_namesAgain distinct inside behind
        (product?_of_kept? (kept?_of_chosen chosen unforced)) names))
    position file inside
  rcases holds with ⟨outcome, taken, -, fit⟩
  rcases fit chosen with rfl | first
  · exact .inl taken
  · exact .inr first

section Trips

/-- A file without tags. -/
def shot (name : String) (location : Path) : TaggedFile :=
  TaggedFile.undecided name "" "" [] name location

/-- Files that get the name `a`, or `a` and a number. Nobody chose names that begin with `I`. -/
def trip (forceRename : Bool) (files : List TaggedFile) : Batch where
  namer :=
    ⟨[⟨⟨[⟨[.all]⟩]⟩, "a/ITER| /#|/EITER|"⟩],
      (Pattern.leading "I").toOption.toList⟩
  resolver := GroupTable.empty.resolver
  options := ⟨forceRename, false, false⟩
  files := files

theorem leading_I : (Pattern.leading "I").toOption.toList =
    [⟨"^(?:I)", .concat (.look .textStart) (.one (.single 'I'))⟩] := rfl

/-- What is recorded when the file that is called `b` has been named by force. -/
def forced : Ledger :=
  ⟨[⟨Path.empty, "a", 1, ⟨"1"⟩⟩]⟩

/-- Of two files that are named after that, the one that is called `c` is left alone. -/
theorem kept_trip :
    let files := [shot "c" ⟨"2"⟩, shot "I" ⟨"3"⟩]
    let outcomes := [shot "c" ⟨"2"⟩, { shot "I" ⟨"3"⟩ with outputName := "a 2" }]
    (trip false files).name.ends forced =
        (.ok outcomes, ⟨[⟨Path.empty, "a", 2, ⟨"1"⟩⟩]⟩) ∧
      ∀ position file, files[position]? = some file →
        (trip false files).namer.isUnnamed file.untaggedName = false →
        outcomes[position]? = some { file with renameFailed := false } ∨
          (trip false files).TakenForFirst ((trip false files).startFrom forced) position file := by
  intro files outcomes
  have distinct : files.Pairwise fun left right =>
      left.location.sameAs right.location = false := of_decide_eq_true (by cbv)
  have ended : (trip false files).name.ends forced =
      (.ok outcomes, ⟨[⟨Path.empty, "a", 2, ⟨"1"⟩⟩]⟩) := by
    rw [trip, leading_I]
    cbv
  exact ⟨ended, kept_of_ends_name distinct rfl ended⟩

/-- The file that was named by force is renamed by the next batch, although nothing is forced. -/
theorem renamed_trip :
    let files := [shot "b" ⟨"1"⟩, shot "I" ⟨"2"⟩]
    ((trip true [shot "b" ⟨"1"⟩]).name.ends .empty).2 = forced ∧
      (files.Pairwise fun left right => left.location.sameAs right.location = false) ∧
      (trip false files).namer.isUnnamed (shot "b" ⟨"1"⟩).untaggedName = false ∧
      ((trip false files).name.ends forced).1 =
        .ok [{ shot "b" ⟨"1"⟩ with outputName := "a 1" },
          { shot "I" ⟨"2"⟩ with outputName := "a 2" }] := by
  intro files
  simp only [trip, leading_I]
  exact ⟨by cbv, of_decide_eq_true (by cbv), by cbv, by cbv⟩

end Trips

end Batch

end TagOrganizer
