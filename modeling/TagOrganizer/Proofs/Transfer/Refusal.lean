import Mathlib.Tactic.Tauto
import TagOrganizer.Proofs.FileTree.Tells
import TagOrganizer.Proofs.Path.Components
import TagOrganizer.Proofs.Transfer

/-!
# Files that are refused

A file is refused by a folder iff its destination or its name leads out of it (`Leaves`). Then
nothing is done for the file but to tell about it (`placeIn_of_leaves`), and no other file is told
to be refused (`exists_isRefusal_iff`). The target of a file that is not refused has the components
of the folder, of the destination and of the name, in this order.
-/

namespace TagOrganizer

namespace Transfer

open FileTree Operation

/-- Whether a file would leave the folder that it is to go to. -/
def Leaves (file : TaggedFile) : Prop :=
  file.destination.isAbsolute = true ∨ .up ∈ file.destination.components ∨
    '/' ∈ file.outputName.toList ∨ ¬∃ name, Path.components ⟨file.outputName⟩ = [.name name]

/-- Whether an event tells that a file has been refused. -/
def isRefusal : Event → Bool
  | .outsideRefused .. => true
  | _ => false

variable {options : MoveOptions} {file : TaggedFile} {folder : Path}

/-! ### Which files stay inside -/

theorem all_staysBelow_iff {destination : Path} :
    destination.components.all staysBelow = true ↔
      destination.isAbsolute = false ∧ .up ∉ destination.components := by
  rw [List.all_eq_true, ← Bool.not_eq_true, ← Path.root_mem_components_iff]
  constructor
  · intro below
    exact ⟨fun root => Bool.false_ne_true (below _ root), fun up => Bool.false_ne_true (below _ up)⟩
  · rintro ⟨noRoot, noUp⟩ component present
    cases component with
    | root => exact absurd present noRoot
    | up => exact absurd present noUp
    | here => rfl
    | name name => rfl

theorem isSingleName_iff {name : String} :
    isSingleName name = true ↔
      '/' ∉ name.toList ∧ ∃ other, Path.components ⟨name⟩ = [.name other] := by
  unfold isSingleName
  simp only [Bool.and_eq_true, Bool.not_eq_true', List.contains_eq_mem, decide_eq_false_iff_not]
  refine and_congr_right fun _ => ?_
  constructor
  · intro single
    split at single
    · rename_i other shape
      exact ⟨other, shape⟩
    · cases single
  · rintro ⟨other, shape⟩
    rw [shape]

theorem leaves_iff :
    Leaves file ↔
      ¬(file.destination.components.all staysBelow = true ∧
        isSingleName file.outputName = true) := by
  rw [all_staysBelow_iff, isSingleName_iff, Leaves, ← Bool.not_eq_true]
  tauto

theorem components_outputName (inside : ¬Leaves file) :
    Path.components ⟨file.outputName⟩ = [.name file.outputName] := by
  rw [leaves_iff, not_not, isSingleName_iff] at inside
  rcases inside.2 with ⟨slashless, other, single⟩
  exact Path.components_of_slashless slashless single

theorem relative_of_inside (inside : ¬Leaves file) :
    file.destination.isAbsolute = false ∧ (Path.mk file.outputName).isAbsolute = false := by
  rw [leaves_iff, not_not, all_staysBelow_iff, isSingleName_iff] at inside
  exact ⟨inside.1.1, Path.isAbsolute_of_slashless inside.2.1⟩

/-- A file stays inside iff nothing about its destination and its name leads out. -/
theorem staysInside_iff : staysInside folder file = true ↔ ¬Leaves file := by
  unfold staysInside
  rw [Bool.and_eq_true, Bool.and_eq_true, leaves_iff, not_not]
  refine ⟨And.left, fun proper => ⟨proper, ?_⟩⟩
  rcases relative_of_inside (leaves_iff.not_left.2 proper) with ⟨relative, plain⟩
  rw [Path.startsWith, List.isPrefixOf_iff_prefix]
  exact (Path.startsWith_join relative).trans (Path.startsWith_join plain)

theorem plainComponents_targetIn (inside : ¬Leaves file) (folder : Path) :
    (targetIn folder file).plainComponents =
      folder.plainComponents ++ file.destination.plainComponents ++ [.name file.outputName] := by
  rcases relative_of_inside inside with ⟨relative, plain⟩
  have single : Path.plainComponents ⟨file.outputName⟩ = [.name file.outputName] := by
    rw [Path.plainComponents, components_outputName inside]
    rfl
  rw [targetIn, Path.plainComponents_join plain, Path.plainComponents_join relative, single]

theorem named_destination (inside : ¬Leaves file) :
    ∀ component ∈ file.destination.plainComponents, ∃ name, component = .name name := by
  rw [leaves_iff, not_not, List.all_eq_true] at inside
  intro component present
  rw [Path.plainComponents, List.mem_filter] at present
  have below := inside.1 component present.1
  cases component with
  | root => cases below
  | up => cases below
  | here => exact absurd present.2 (by decide)
  | name name => exact ⟨name, rfl⟩

/-! ### What is told about refused files -/

theorem not_isRefusal_checkWindows (name : String) (path : Path) :
    ∀ event ∈ (checkWindows name path).log, isRefusal event = false := by
  unfold checkWindows
  simp only [Logged.log_bind, Logged.log_pure, List.append_nil]
  generalize windowsIssues name path = issues
  induction issues with
  | nil => simp
  | cons issue issues ih =>
      rw [List.forIn_cons]
      intro event present
      rcases List.mem_append.1 present with first | later
      · cases List.mem_singleton.1 first
        rfl
      · exact ih event later

theorem tells_makeDestination (options : MoveOptions) (folder : Path) :
    Tells (isRefusal · = false) (makeDestination options folder) := by
  unfold makeDestination
  refine tells_bind tells_tree fun tree => ?_
  split
  · refine tells_bind (tells_tell rfl) fun _ => ?_
    split
    · exact tells_makeFolders folder
    · exact tells_pure _
  · exact tells_pure _

theorem tells_makeRoom (options : MoveOptions) (target : Path) :
    Tells (isRefusal · = false) (makeRoom options target) := by
  unfold makeRoom
  refine tells_bind tells_tree fun tree => ?_
  split
  · exact tells_pure _
  · split
    · exact tells_bind (tells_tell rfl) fun _ => tells_pure _
    · split
      · exact tells_bind (tells_tell rfl) fun _ => tells_pure _
      · refine tells_bind (tells_tell rfl) fun _ => ?_
        split
        · exact tells_pure _
        · refine tells_bind (tells_attempt _) fun removed => ?_
          split
          · exact tells_pure _
          · exact tells_bind (tells_tell rfl) fun _ => tells_pure _

theorem tells_copyTo (options : MoveOptions) (source target : Path) :
    Tells (isRefusal · = false) (copyTo options source target) := by
  unfold copyTo
  split
  · exact tells_pure _
  · refine tells_bind (tells_attempt _) fun copied => ?_
    split
    · exact tells_pure _
    · exact tells_bind (tells_tell rfl) fun _ => tells_pure _

theorem tells_placeAt (options : MoveOptions) (file : TaggedFile) (folder target : Path) :
    Tells (isRefusal · = false) (placeAt options file folder target) := by
  unfold placeAt
  refine tells_bind tells_tree fun tree => ?_
  split
  · exact tells_bind (tells_tell rfl) fun _ => tells_pure _
  · refine tells_bind (tells_tell rfl) fun _ => ?_
    refine tells_bind (tells_makeDestination options _) fun _ => ?_
    refine tells_bind (tells_makeRoom options target) fun roomy => ?_
    split
    · refine tells_bind (tells_copyTo options _ target) fun written => ?_
      split
      · exact tells_pure _
      · exact tells_pure _
    · exact tells_pure _

theorem tells_placeIn (inside : ¬Leaves file) (options : MoveOptions) (folder : Path) :
    Tells (isRefusal · = false) (placeIn options file folder) := by
  have admitted : staysInside folder file = true := staysInside_iff.2 inside
  unfold placeIn
  rw [admitted]
  simp only [Bool.not_true, Bool.false_eq_true, if_false]
  split
  · refine tells_bind (tells_logged (not_isRefusal_checkWindows _ _)) fun _ => ?_
    exact tells_placeAt options file folder _
  · exact tells_placeAt options file folder _

/-- Nothing is done for a file that would leave its folder. -/
theorem placeIn_of_leaves (leaves : Leaves file) (options : MoveOptions) (folder : Path)
    (tree : FileTree) :
    (placeIn options file folder).performOn tree =
      ⟨(.ok none, tree),
        [.outsideRefused file.rawName folder file.destination file.outputName]⟩ := by
  have outside : staysInside folder file = false := by
    rw [← Bool.not_eq_true, staysInside_iff, not_not]
    exact leaves
  unfold placeIn
  rw [outside]
  rfl

theorem exists_isRefusal_iff (options : MoveOptions) (file : TaggedFile) (folder : Path)
    (tree : FileTree) :
    (∃ event ∈ ((placeIn options file folder).performOn tree).log, isRefusal event = true) ↔
      Leaves file := by
  constructor
  · rintro ⟨event, told, refusal⟩
    by_contra inside
    rw [performOn, Logged.log_bind, Logged.log_pure, List.append_nil] at told
    have harmless := tells_placeIn inside options folder (Disk.bare tree) event told
    exact Bool.false_ne_true (harmless.symm.trans refusal)
  · intro leaves
    rw [placeIn_of_leaves leaves]
    exact ⟨_, List.mem_singleton_self _, rfl⟩

end Transfer

end TagOrganizer
