import TagOrganizer.Proofs.Act
import TagOrganizer.Renaming.Naming

/-!
# Naming one file after the other

What a batch of files does with its next file: a file that produces no name changes nothing but
itself, and one that produces a name is either the first one or is numbered, with the first file
that produced the name renamed if the second one comes (`named_of_ends_nameFile`). Nothing else can
happen, and each of this happens where it can (`ends_nameFile_eq_ok_iff`).
-/

namespace TagOrganizer

/-- Files that are named together. -/
structure Batch where
  namer : Namer
  resolver : Resolver
  options : NamingOptions
  files : List TaggedFile

/-- A file after a name has been decided for it, which must not hold a slash. -/
def TaggedFile.given (name : String) (file : TaggedFile) : TaggedFile :=
  if name.toList.contains '/' then { file with renameFailed := true }
  else { file with outputName := name, renameFailed := false }

/-- A name with a slash is not given, but leaves the file with its name and a failure. -/
theorem TaggedFile.given_of_slash {name : String} (slash : name.toList.contains '/' = true)
    (file : TaggedFile) : file.given name = { file with renameFailed := true } :=
  if_pos slash

/-- Giving a name decides about the name of a file and about nothing else. -/
theorem TaggedFile.exists_given_eq (name : String) (file : TaggedFile) :
    ∃ outputName renameFailed, file.given name = { file with outputName, renameFailed } := by
  unfold given
  split
  · exact ⟨file.outputName, true, rfl⟩
  · exact ⟨name, false, rfl⟩

/-- A file is left with the name that is given to it or with the one that it has. -/
theorem TaggedFile.outputName_given (name : String) (file : TaggedFile) :
    (file.given name).outputName = file.outputName ∨ (file.given name).outputName = name := by
  unfold given
  split
  · exact .inl rfl
  · exact .inr rfl

theorem TaggedFile.outputName_given_of_not_failed {name : String} {file : TaggedFile}
    (named : (file.given name).renameFailed = false) : (file.given name).outputName = name := by
  unfold given at named ⊢
  split at named
  · cases named
  · rename_i slashless
    rw [if_neg slashless]

@[simp]
theorem TaggedFile.location_given (name : String) (file : TaggedFile) :
    (file.given name).location = file.location := by
  unfold given
  split <;> rfl

namespace Batch

variable (batch : Batch)

/-- The format that a file is named by and the name without spans, unless it holds a slash. -/
def product? (file : TaggedFile) : Option (String × String) :=
  if batch.namer.isUnnamed file.untaggedName || batch.options.forceRename then
    match (batch.namer.findFormat file.tags batch.resolver).result with
    | .ok (some format) =>
        match (Template.nameAlone format file batch.resolver).result with
        | .ok name => if name.toList.contains '/' then none else some (format, name)
        | .error _ => none
    | _ => none
  else none

/-- Whether a file that produces no name counts as failed, unless naming it ends with an error. -/
def kept? (file : TaggedFile) : Option Bool :=
  if batch.namer.isUnnamed file.untaggedName || batch.options.forceRename then
    match (batch.namer.findFormat file.tags batch.resolver).result with
    | .ok (some format) =>
        match (Template.nameAlone format file batch.resolver).result with
        | .ok name => if name.toList.contains '/' then some true else none
        | .error _ => none
    | .ok none => some (batch.namer.isUnnamed file.untaggedName || batch.options.failOnBad)
    | .error _ => none
  else some false

/-- Whether a file produces a name in a destination. -/
def produces (destination : Path) (name : String) (file : TaggedFile) : Bool :=
  match batch.product? file with
  | some (_, produced) => file.destination.sameAs destination && produced == name
  | none => false

/-- Names the files of a batch. -/
def name : Naming (List TaggedFile) :=
  Naming.nameBatch batch.namer batch.resolver batch.options batch.files

/-- What naming a file, after the earlier ones of its batch, does to them and to the ledger. -/
inductive Named (ledger : Ledger) (earlier : List TaggedFile) (file : TaggedFile) :
    List TaggedFile → Ledger → Prop where
  | unproduced {failed : Bool} (nothing : batch.product? file = none) :
      Named ledger earlier file (earlier ++ [{ file with renameFailed := failed }]) ledger
  | first {format name : String} (product : batch.product? file = some (format, name))
      (fresh : ledger.find? file.destination name = none) :
      Named ledger earlier file (earlier ++ [file.given name])
        (ledger.addFirst file.destination name file.location)
  | later {format name number : String} {produced : ProducedName} {renamed : List TaggedFile}
      (product : batch.product? file = some (format, name))
      (found : ledger.find? file.destination name = some produced)
      (second : produced.occurrences = 1 →
        (Naming.renameFirst format name batch.resolver produced.first earlier).result = .ok renamed)
      (further : produced.occurrences ≠ 1 → renamed = earlier)
      (numbered : (Template.nameNumbered format (produced.occurrences + 1) file
        batch.resolver).result = .ok number) :
      Named ledger earlier file (renamed ++ [file.given number])
        (ledger.count file.destination name)

end Batch

namespace Naming

theorem value_assign (format name : String) (file : TaggedFile) :
    (assign format name file).value = file.given name := by
  unfold assign TaggedFile.given
  split <;> rfl

theorem value_keepName (file : TaggedFile) :
    (keepName file).value = { file with renameFailed := false } := rfl

end Naming

namespace Batch

variable {batch : Batch} {ledger after : Ledger} {earlier outcomes : List TaggedFile}
  {file : TaggedFile} {format : String}

theorem product?_of_findFormat
    (chosen : (batch.namer.isUnnamed file.untaggedName || batch.options.forceRename) = true)
    (found : (batch.namer.findFormat file.tags batch.resolver).result = .ok (some format))
    {name : String} (alone : (Template.nameAlone format file batch.resolver).result = .ok name) :
    batch.product? file = if name.toList.contains '/' then none else some (format, name) := by
  simp only [product?, chosen, found, alone, if_true]

theorem findFormat_and_nameAlone_of_product? {name : String}
    (product : batch.product? file = some (format, name)) :
    (batch.namer.findFormat file.tags batch.resolver).result = .ok (some format) ∧
      (Template.nameAlone format file batch.resolver).result = .ok name := by
  unfold product? at product
  split at product
  · split at product
    · rename_i chosen found
      split at product
      · rename_i alone
        split at product
        · cases product
        · cases product
          exact ⟨found, alone⟩
      · cases product
    · cases product
  · cases product

/-! ### Producing a name -/

theorem ends_numbered_eq_ok_iff {name : String} {count : Nat} {renamed : List TaggedFile} :
    Act.ends (do
      modify fun ledger => ledger.count file.destination name
      let number ← Template.nameNumbered format (count + 1) file batch.resolver
      tell (.nameChosen file.rawName number)
      let file ← (Naming.assign format number file : Logged TaggedFile)
      return renamed ++ [file] : Naming (List TaggedFile)) ledger = (.ok outcomes, after) ↔
      ∃ number,
        (Template.nameNumbered format (count + 1) file batch.resolver).result = .ok number ∧
        outcomes = renamed ++ [file.given number] ∧
        after = ledger.count file.destination name := by
  simp only [Act.ends_bind, Act.ends_modify, Act.ends_evaluation]
  cases (Template.nameNumbered format (count + 1) file batch.resolver).result with
  | error error => simp
  | ok number => simp [Naming.value_assign, eq_comm]

theorem ends_nameBy_of_error {error : Error}
    (alone : (Template.nameAlone format file batch.resolver).result = .error error) :
    (Naming.nameBy format batch.resolver earlier file).ends ledger = (.error error, ledger) := by
  simp only [Naming.nameBy, Act.ends_bind, Act.ends_logged, Act.ends_evaluation, alone]

theorem ends_nameBy_of_slash {name : String}
    (alone : (Template.nameAlone format file batch.resolver).result = .ok name)
    (slash : name.toList.contains '/' = true) :
    (Naming.nameBy format batch.resolver earlier file).ends ledger =
      (.ok (earlier ++ [{ file with renameFailed := true }]), ledger) := by
  simp only [Naming.nameBy, Act.ends_bind, Act.ends_logged, Act.ends_evaluation, alone,
    if_pos slash, Act.ends_pure, Naming.value_assign, TaggedFile.given_of_slash slash]

/-- A file that produces a name is the first one to do so or a later one. -/
theorem named_iff {name : String} (product : batch.product? file = some (format, name)) :
    batch.Named ledger earlier file outcomes after ↔
      (ledger.find? file.destination name = none ∧ outcomes = earlier ++ [file.given name] ∧
        after = ledger.addFirst file.destination name file.location) ∨
      ∃ produced renamed number, ledger.find? file.destination name = some produced ∧
        (produced.occurrences = 1 →
          (Naming.renameFirst format name batch.resolver produced.first earlier).result =
            .ok renamed) ∧
        (produced.occurrences ≠ 1 → renamed = earlier) ∧
        (Template.nameNumbered format (produced.occurrences + 1) file batch.resolver).result =
          .ok number ∧
        outcomes = renamed ++ [file.given number] ∧
        after = ledger.count file.destination name := by
  constructor
  · intro named
    cases named with
    | unproduced nothing =>
        rw [nothing] at product
        cases product
    | first own fresh =>
        cases product.symm.trans own
        exact .inl ⟨fresh, rfl, rfl⟩
    | later own found second further numbered =>
        cases product.symm.trans own
        exact .inr ⟨_, _, _, found, second, further, numbered, rfl, rfl⟩
  · rintro (⟨fresh, rfl, rfl⟩ | ⟨produced, renamed, number, found, second, further, numbered, same⟩)
    · exact .first product fresh
    · rcases same with ⟨rfl, rfl⟩
      exact .later product found second further numbered

/-- A file that produces a name is named as the first or a later one to do so. -/
theorem ends_nameBy_eq_ok_iff {name : String} (product : batch.product? file = some (format, name))
    (slashless : ¬name.toList.contains '/' = true) :
    (Naming.nameBy format batch.resolver earlier file).ends ledger = (.ok outcomes, after) ↔
      batch.Named ledger earlier file outcomes after := by
  have alone := (findFormat_and_nameAlone_of_product? product).2
  rw [named_iff product]
  simp only [Naming.nameBy, Act.ends_bind, Act.ends_logged, Act.ends_evaluation, alone,
    if_neg slashless, Act.ends_get]
  cases looked : ledger.find? file.destination name with
  | none =>
      simp only [Act.ends_bind, Act.ends_tell, Act.ends_modify, Act.ends_logged, Act.ends_pure,
        Naming.value_assign]
      simp [eq_comm]
  | some produced =>
      simp only [Act.ends_bind, Act.ends_tell]
      by_cases second : produced.occurrences = 1
      · rw [if_pos second, Act.ends_bind, Act.ends_evaluation]
        cases again : (Naming.renameFirst format name batch.resolver produced.first
            earlier).result with
        | error error => simp [second, again]
        | ok renamed =>
            simp only [ends_numbered_eq_ok_iff]
            simp [second, again]
      · rw [if_neg second, pure_bind, ends_numbered_eq_ok_iff]
        simp [second]

/-! ### Naming a file -/

/--
Naming a file succeeds in two ways: the file produces no name and is left with a flag, or it
produces one and is named as the first or a later file of it.
-/
theorem ends_nameFile_eq_ok_iff :
    (Naming.nameFile batch.namer batch.resolver batch.options earlier file).ends ledger =
        (.ok outcomes, after) ↔
      (∃ failed, batch.kept? file = some failed ∧
        outcomes = earlier ++ [{ file with renameFailed := failed }] ∧ after = ledger) ∨
      ((batch.product? file).isSome = true ∧ batch.Named ledger earlier file outcomes after) := by
  unfold Naming.nameFile
  simp only
  cases chosen : batch.namer.isUnnamed file.untaggedName || batch.options.forceRename with
  | false =>
      have manual : (!batch.namer.isUnnamed file.untaggedName && !batch.options.forceRename) =
          true := by
        rw [← Bool.not_or, chosen]
        rfl
      rw [if_pos manual]
      simp only [Act.ends_bind, Act.ends_logged, Act.ends_pure, Naming.value_keepName]
      simp [kept?, product?, chosen, eq_comm]
  | true =>
      have free : ¬(!batch.namer.isUnnamed file.untaggedName && !batch.options.forceRename) =
          true := by
        rw [← Bool.not_or, chosen]
        exact Bool.false_ne_true
      rw [if_neg free, Act.ends_bind, Act.ends_evaluation]
      cases found : (batch.namer.findFormat file.tags batch.resolver).result with
      | error error => simp [kept?, product?, chosen, found]
      | ok format? =>
          cases format? with
          | none =>
              simp only [kept?, product?, chosen, found, if_true]
              split
              · rename_i lenient
                rw [← Bool.not_or, Bool.not_eq_true'] at lenient
                simp only [Act.ends_bind, Act.ends_logged, Act.ends_pure, Naming.value_keepName,
                  lenient]
                simp [eq_comm]
              · rename_i strict
                rw [← Bool.not_or, Bool.not_eq_true', Bool.not_eq_false] at strict
                simp only [Act.ends_bind, Act.ends_tell, Act.ends_pure, strict]
                simp [eq_comm]
          | some format =>
              simp only
              cases alone : (Template.nameAlone format file batch.resolver).result with
              | error error =>
                  rw [ends_nameBy_of_error alone]
                  simp [kept?, product?, chosen, found, alone]
              | ok name =>
                  have product := product?_of_findFormat chosen found alone
                  by_cases slash : name.toList.contains '/' = true
                  · rw [if_pos slash] at product
                    rw [ends_nameBy_of_slash alone slash, product]
                    simp only [kept?, chosen, found, alone, if_true, if_pos slash]
                    simp [eq_comm]
                  · rw [if_neg slash] at product
                    rw [ends_nameBy_eq_ok_iff product slash, product]
                    simp only [kept?, chosen, found, alone, if_true, if_neg slash]
                    simp

theorem product?_of_kept? {failed : Bool} (kept : batch.kept? file = some failed) :
    batch.product? file = none := by
  unfold kept? at kept
  unfold product?
  split
  · rename_i chosen
    rw [if_pos chosen] at kept
    split
    · rename_i format found
      rw [found] at kept
      simp only at kept
      split
      · rename_i name alone
        rw [alone] at kept
        simp only at kept
        split at kept
        · rename_i slash
          rw [if_pos slash]
        · cases kept
      · rfl
    · rfl
  · rfl

/-- Naming a file is one of the three ways to name a file. -/
theorem named_of_ends_nameFile
    (ended : (Naming.nameFile batch.namer batch.resolver batch.options earlier file).ends ledger =
      (.ok outcomes, after)) :
    batch.Named ledger earlier file outcomes after := by
  rcases ends_nameFile_eq_ok_iff.1 ended with ⟨failed, kept, rfl, rfl⟩ | ⟨-, named⟩
  · exact .unproduced (product?_of_kept? kept)
  · exact named

end Batch

namespace Naming

variable {format name : String} {resolver : Resolver} {first : Path}

theorem result_renameFirst_cons (file : TaggedFile) (files : List TaggedFile) :
    (renameFirst format name resolver first (file :: files)).result =
      if file.location.sameAs first then
        (Template.nameNumbered format 1 file resolver).result.map fun number =>
          file.given number :: files
      else (renameFirst format name resolver first files).result.map (file :: ·) := by
  rw [renameFirst]
  split
  · simp only [Evaluation.result_bind, Evaluation.result_tell, Evaluation.result_logged,
      Evaluation.result_pure, value_assign]
    cases (Template.nameNumbered format 1 file resolver).result <;> rfl
  · simp only [Evaluation.result_bind, Evaluation.result_pure]
    cases (renameFirst format name resolver first files).result <;> rfl

/-- The first file of a name is named again where it is found, and nothing else changes. -/
theorem result_renameFirst {earlier renamed : List TaggedFile}
    (ended : (renameFirst format name resolver first earlier).result = .ok renamed) :
    (renamed = earlier ∧ ∀ file ∈ earlier, file.location.sameAs first = false) ∨
      ∃ front file back number, earlier = front ++ file :: back ∧
        file.location.sameAs first = true ∧
        (Template.nameNumbered format 1 file resolver).result = .ok number ∧
        renamed = front ++ file.given number :: back := by
  induction earlier generalizing renamed with
  | nil =>
      cases ended
      exact .inl ⟨rfl, by simp⟩
  | cons file files ih =>
      rw [result_renameFirst_cons] at ended
      split at ended
      · rename_i here
        rcases Except.map_eq_ok_iff.1 ended with ⟨number, numbered, rfl⟩
        exact .inr ⟨[], file, files, number, rfl, here, numbered, rfl⟩
      · rename_i elsewhere
        rcases Except.map_eq_ok_iff.1 ended with ⟨others, further, rfl⟩
        rcases ih further with ⟨rfl, apart⟩ | ⟨front, found, back, number, rfl, rest⟩
        · refine .inl ⟨rfl, ?_⟩
          simpa [elsewhere] using apart
        · rcases rest with ⟨there, numbered, rfl⟩
          exact .inr ⟨file :: front, found, back, number, rfl, there, numbered, rfl⟩

end Naming

/-! ### Where files are -/

namespace Batch

variable {batch : Batch} {ledger after : Ledger} {earlier outcomes : List TaggedFile}

/-- Naming a file leaves all files where they are. -/
theorem Named.locations {file : TaggedFile}
    (named : batch.Named ledger earlier file outcomes after) :
    outcomes.map TaggedFile.location = earlier.map TaggedFile.location ++ [file.location] := by
  cases named with
  | unproduced _ => simp
  | first _ _ => simp
  | @later format name number produced renamed _ _ second further _ =>
      rw [List.map_append]
      by_cases twice : produced.occurrences = 1
      · rcases Naming.result_renameFirst (second twice) with ⟨rfl, -⟩ | ⟨_, _, _, _, rfl, _, _, rfl⟩
        · simp
        · simp
      · rw [further twice]
        simp

theorem locations_of_ends_nameAll {files : List TaggedFile}
    (ended : (Naming.nameAll batch.namer batch.resolver batch.options earlier files).ends ledger =
      (.ok outcomes, after)) :
    outcomes.map TaggedFile.location = (earlier ++ files).map TaggedFile.location := by
  induction files generalizing earlier ledger with
  | nil =>
      cases ended
      rw [List.append_nil]
  | cons file files ih =>
      rw [Naming.nameAll, Act.ends_bind_eq_ok_iff] at ended
      rcases ended with ⟨named, between, first, rest⟩
      rw [ih rest, List.map_append, (named_of_ends_nameFile first).locations]
      simp

/-- Naming a batch names its files one after the other, from the ledger or from the empty one. -/
theorem ends_name (batch : Batch) (ledger : Ledger) :
    batch.name.ends ledger =
      (Naming.nameAll batch.namer batch.resolver batch.options [] batch.files).ends
        (if batch.options.clearOccurrences then .empty else ledger) := by
  unfold name Naming.nameBatch
  split
  · rw [Act.ends_bind, Act.ends_set]
  · rfl

/-- It does not matter to a batch that starts from the empty ledger whether this is cleared. -/
theorem ends_name_empty (batch : Batch) :
    batch.name.ends Ledger.empty =
      (Naming.nameAll batch.namer batch.resolver batch.options [] batch.files).ends
        Ledger.empty := by
  rw [ends_name, ite_self]

theorem locations_of_ends_name (ended : batch.name.ends ledger = (.ok outcomes, after)) :
    outcomes.map TaggedFile.location = batch.files.map TaggedFile.location := by
  rw [ends_name] at ended
  exact locations_of_ends_nameAll ended

end Batch

end TagOrganizer
