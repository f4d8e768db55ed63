import Mathlib
import TagOrganizer.Proofs.Evaluation
import TagOrganizer.Settings

/-!
# Usable settings

The options of the command line and of an options file can be merged iff together they say where
files come from, by which rules and where they go (`resolve_ok_iff_and_usable`). What comes out is
usable: there is something to do, what is asked for does not contradict itself, nothing is cleaned
but the folders of the run, and nothing is overwritten unless the command line asks for it.
-/

namespace TagOrganizer

namespace Settings

variable {line file : Options} {settings : Settings}

/-! ### What is merged -/

/-- Whether files are only renamed: one source asks for that, and none asks to move them only. -/
def renamesOnly (line file : Options) : Bool :=
  (line.renameOnly || file.renameOnly) && !(line.moveOnly || file.moveOnly)

/-- The settings for given output folders. -/
def settled (line file : Options) (output : List Path) : Settings :=
  let input := pick line.inputFolders file.inputFolders
  let keepWanted := line.keep || file.keep
  { inputFolders := input
    ignoreFiles := pick line.ignoreFiles file.ignoreFiles
    recursive := line.recursive || file.recursive
    hidden := line.hidden || file.hidden
    outputFolders := output
    groupFiles := pick line.groupFiles file.groupFiles
    ruleFiles := pick line.ruleFiles file.ruleFiles
    allMatchRoot := line.allMatchRoot || file.allMatchRoot
    cleanFolders := resolveCleaning line file input output
    keep := keepWanted && !(keepWanted && isInPlace input output)
    moveOnly := (line.moveOnly || file.moveOnly) && !(line.renameOnly || file.renameOnly)
    renameOnly := renamesOnly line file
    moveAll := line.moveAll || file.moveAll
    renameManual := line.renameManual || file.renameManual
    failForcedRename := line.failForcedRename || file.failForcedRename
    trial := line.trial || file.trial
    posix := line.posix || file.posix
    force := line.force
    log := LogSettings.resolve line file }

/-- What is told under a condition does not matter. -/
theorem result_tellIf {α : Type} (condition : Prop) [Decidable condition] (event : Event)
    (next : Unit → Evaluation α) :
    (if condition then tell event >>= next else next ()).result = (next ()).result := by
  simp [apply_ite Evaluation.result]

theorem result_resolveOutput (line file : Options) (first : Path) (renameOnly : Bool) :
    (resolveOutput line file first renameOnly).result =
      if line.outputFolders ≠ [] then .ok line.outputFolders
      else if line.organize = true ∨ (file.organize = true ∧ file.outputFolders = []) then
        .ok [first]
      else if file.outputFolders ≠ [] then .ok file.outputFolders
      else if renameOnly = true then .ok []
      else .error .noOutputFolder := by
  unfold resolveOutput
  simp [apply_ite Evaluation.result]

theorem result_resolve (line file : Options) :
    (resolve line file).result =
      match pick line.inputFolders file.inputFolders with
      | [] => .error .noInputFolder
      | first :: _ =>
          (resolveOutput line file first (renamesOnly line file)).result >>= fun output =>
            if pick line.ruleFiles file.ruleFiles = [] then .error .noRules
            else .ok (settled line file output) := by
  unfold resolve
  extract_lets moveWanted renameWanted moveOnly renameOnly moveAll renameManual input rules
    keepWanted choose start warnManual warnAll
  have chosen : ∀ first, (choose first).result =
      (resolveOutput line file first (renamesOnly line file)).result >>= fun output =>
        if pick line.ruleFiles file.ruleFiles = [] then .error .noRules
        else .ok (settled line file output) := by
    intro first
    simp only [choose, Evaluation.result_bind]
    congr 1
    funext output
    simp only [List.isEmpty_iff]
    split
    · simp
    · rw [result_tellIf, result_tellIf, result_tellIf]
      rfl
  rw [result_tellIf, result_tellIf, result_tellIf]
  change (start ()).result = _
  simp only [start, input]
  cases pick line.inputFolders file.inputFolders with
  | nil => rfl
  | cons first rest => exact chosen first

/-- Whether a list is that of the command line, or that of the file if the former gives none. -/
structure Preferred (line file chosen : List Path) : Prop where
  ofLine : line ≠ [] → chosen = line
  ofFile : line = [] → chosen = file

theorem preferred_pick (line file : List Path) : Preferred line file (pick line file) where
  ofLine := by
    intro given
    simp [pick, given]
  ofFile := by
    intro missing
    simp [pick, missing]

theorem Preferred.ne_nil_iff {line file chosen : List Path}
    (preferred : Preferred line file chosen) :
    chosen ≠ [] ↔ line ≠ [] ∨ file ≠ [] := by
  by_cases given : line = []
  · simp [given, preferred.ofFile given]
  · simp [given, preferred.ofLine given]

/-! ### Places for the output -/

/-- Whether the options say where files go, or that they are only renamed where they are. -/
def GivesOutput (line file : Options) : Prop :=
  line.outputFolders ≠ [] ∨ file.outputFolders ≠ [] ∨
    line.organize = true ∨ file.organize = true ∨
    ((line.renameOnly = true ∨ file.renameOnly = true) ∧
      line.moveOnly = false ∧ file.moveOnly = false)

theorem renamesOnly_iff :
    renamesOnly line file = true ↔ (line.renameOnly = true ∨ file.renameOnly = true) ∧
      line.moveOnly = false ∧ file.moveOnly = false := by
  simp [renamesOnly]

variable {first : Path} {output : List Path}

theorem exists_resolveOutput_iff (line file : Options) (first : Path) :
    (∃ output, (resolveOutput line file first (renamesOnly line file)).result = .ok output) ↔
      GivesOutput line file := by
  rw [result_resolveOutput, GivesOutput, ← renamesOnly_iff]
  split_ifs with onLine organizes inFile renames
  · simp [onLine]
  · simp only [Except.ok.injEq, exists_eq', true_iff]
    tauto
  · simp [inFile]
  · simp [renames]
  · simp_all

theorem ne_nil_of_resolveOutput {renameOnly : Bool}
    (resolved : (resolveOutput line file first renameOnly).result = .ok output)
    (moves : renameOnly = false) : output ≠ [] := by
  simp only [result_resolveOutput, moves, Bool.false_eq_true, if_false] at resolved
  split_ifs at resolved with onLine organizes inFile
  · cases resolved
    exact onLine
  · cases resolved
    simp
  · cases resolved
    exact inFile

/-! ### What comes out -/

theorem resolve_eq_ok_iff :
    (resolve line file).result = .ok settings ↔
      ∃ first rest output, pick line.inputFolders file.inputFolders = first :: rest ∧
        (resolveOutput line file first (renamesOnly line file)).result = .ok output ∧
        pick line.ruleFiles file.ruleFiles ≠ [] ∧ settings = settled line file output := by
  rw [result_resolve]
  cases pick line.inputFolders file.inputFolders with
  | nil => simp
  | cons first rest =>
      simp only [Except.bind_eq_ok_iff]
      constructor
      · rintro ⟨output, placed, ended⟩
        split at ended
        · cases ended
        · rename_i ruled
          cases ended
          exact ⟨first, rest, output, rfl, placed, ruled, rfl⟩
      · rintro ⟨_, _, output, same, placed, ruled, rfl⟩
        cases same
        exact ⟨output, placed, if_neg ruled⟩

/-- What a run can rely on, given the options that its settings come from. -/
structure Usable (line file : Options) (settings : Settings) : Prop where
  input : settings.inputFolders ≠ []
  rules : settings.ruleFiles ≠ []
  output : settings.renameOnly = false → settings.outputFolders ≠ []
  exclusive : ¬(settings.moveOnly = true ∧ settings.renameOnly = true)
  /-- Originals are not kept where they would be found again. -/
  keep : ∀ source ∈ settings.inputFolders, ∀ target ∈ settings.outputFolders,
    source.components = target.components → settings.keep = false
  clean : ∀ folder ∈ settings.cleanFolders,
    folder ∈ settings.inputFolders ∨ folder ∈ settings.outputFolders
  inputFrom : Preferred line.inputFolders file.inputFolders settings.inputFolders
  ignoreFrom : Preferred line.ignoreFiles file.ignoreFiles settings.ignoreFiles
  groupsFrom : Preferred line.groupFiles file.groupFiles settings.groupFiles
  rulesFrom : Preferred line.ruleFiles file.ruleFiles settings.ruleFiles
  force : settings.force = true → line.force = true

theorem mem_resolveCleaning {input : List Path} {folder : Path}
    (cleaned : folder ∈ resolveCleaning line file input output) :
    folder ∈ input ∨ folder ∈ output := by
  unfold resolveCleaning at cleaned
  extract_lets lineCleans cleanInput cleanOutput at cleaned
  rcases List.mem_append.1 cleaned with fromInput | fromOutput
  · split at fromInput
    · exact .inl fromInput
    · cases fromInput
  · split at fromOutput
    · exact .inr fromOutput
    · cases fromOutput

theorem isInPlace_of_mem {input : List Path} {source target : Path} (collected : source ∈ input)
    (filled : target ∈ output) (same : source.components = target.components) :
    isInPlace input output = true := by
  refine List.any_eq_true.2 ⟨source, collected, ?_⟩
  exact List.any_eq_true.2 ⟨target, filled, by simpa [Path.sameAs] using same⟩

theorem usable_settled {rest : List Path}
    (input : pick line.inputFolders file.inputFolders = first :: rest)
    (placed : (resolveOutput line file first (renamesOnly line file)).result = .ok output)
    (rules : pick line.ruleFiles file.ruleFiles ≠ []) :
    Usable line file (settled line file output) where
  input := by simp [settled, input]
  rules := rules
  output := ne_nil_of_resolveOutput placed
  exclusive := by
    rintro ⟨moves, renames⟩
    simp only [settled, renamesOnly, Bool.and_eq_true, Bool.not_eq_true'] at moves renames
    simp [renames.1] at moves
  keep := by
    intro source collected target filled same
    have inPlace : isInPlace (pick line.inputFolders file.inputFolders) output = true :=
      isInPlace_of_mem collected filled same
    simp only [settled, inPlace, Bool.and_true, Bool.and_not_self]
  clean := fun folder => mem_resolveCleaning
  inputFrom := preferred_pick _ _
  ignoreFrom := preferred_pick _ _
  groupsFrom := preferred_pick _ _
  rulesFrom := preferred_pick _ _
  force := id

/--
Options are merged iff one of the two sources gives input folders, one gives rule files, and one
says where files go; that files are only renamed is enough for the latter. The settings that come
out are usable.
-/
theorem resolve_ok_iff_and_usable (line file : Options) :
    ((∃ settings, (resolve line file).result = .ok settings) ↔
      (line.inputFolders ≠ [] ∨ file.inputFolders ≠ []) ∧
        (line.ruleFiles ≠ [] ∨ file.ruleFiles ≠ []) ∧ GivesOutput line file) ∧
      ∀ settings, (resolve line file).result = .ok settings → Usable line file settings := by
  constructor
  · rw [← (preferred_pick line.inputFolders file.inputFolders).ne_nil_iff,
      ← (preferred_pick line.ruleFiles file.ruleFiles).ne_nil_iff]
    constructor
    · rintro ⟨settings, resolved⟩
      rcases resolve_eq_ok_iff.1 resolved with ⟨first, rest, output, input, placed, rules, -⟩
      exact ⟨by simp [input], rules, (exists_resolveOutput_iff line file first).1 ⟨output, placed⟩⟩
    · rintro ⟨input, rules, gives⟩
      rcases List.exists_cons_of_ne_nil input with ⟨first, rest, split⟩
      rcases (exists_resolveOutput_iff line file first).2 gives with ⟨output, placed⟩
      exact ⟨_, resolve_eq_ok_iff.2 ⟨first, rest, output, split, placed, rules, rfl⟩⟩
  · intro settings resolved
    rcases resolve_eq_ok_iff.1 resolved with ⟨first, rest, output, input, placed, rules, rfl⟩
    exact usable_settled input placed rules

/-- A command line that asks to keep the originals in a folder. -/
def photosLine : Options :=
  { Options.none with inputFolders := [⟨"photos/"⟩], keep := true }

/-- An options file in which that folder is one of the output folders, written in another way. -/
def photosFile : Options :=
  { Options.none with
    inputFolders := [⟨"in"⟩]
    outputFolders := [⟨"out"⟩, ⟨"photos/."⟩]
    ruleFiles := [⟨"rules"⟩]
    cleanOutput := true }

/-- No originals are kept where they would lie beside their copies. -/
theorem resolve_ok_iff_and_usable_photos :
    let settings := settled photosLine photosFile photosFile.outputFolders
    GivesOutput photosLine photosFile ∧ (resolve photosLine photosFile).result = .ok settings ∧
      Usable photosLine photosFile settings ∧ settings.keep = false ∧
      settings.cleanFolders = [⟨"out"⟩, ⟨"photos/."⟩] := by
  intro settings
  have placed (first : Path) : (resolveOutput photosLine photosFile first
      (renamesOnly photosLine photosFile)).result = .ok photosFile.outputFolders := by
    simp [result_resolveOutput, photosLine, photosFile, Options.none]
  have rules : pick photosLine.ruleFiles photosFile.ruleFiles ≠ [] := by
    simp [pick, photosLine, photosFile, Options.none]
  have resolved : (resolve photosLine photosFile).result = .ok settings :=
    resolve_eq_ok_iff.2 ⟨⟨"photos/"⟩, [], _, rfl, placed _, rules, rfl⟩
  rcases resolve_ok_iff_and_usable photosLine photosFile with ⟨resolves, usable⟩
  have filled : (⟨"photos/."⟩ : Path) ∈ settings.outputFolders := by
    simp [settings, settled, photosFile]
  have same : (⟨"photos/"⟩ : Path).components = (⟨"photos/."⟩ : Path).components := by
    decide +kernel
  have kept : settings.keep = false :=
    (usable settings resolved).keep _ (List.mem_singleton.2 rfl) _ filled same
  exact ⟨(resolves.1 ⟨settings, resolved⟩).2.2, resolved, usable settings resolved, kept, rfl⟩

end Settings

end TagOrganizer
